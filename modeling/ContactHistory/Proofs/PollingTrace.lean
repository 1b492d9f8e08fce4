import ContactHistory.Proofs.FailFast
import Mathlib.Data.List.Nodup

namespace ContactHistory

theorem mem_upToFirst_iff {α : Type} {p : α → Bool} {as : List α} {a : α} :
    a ∈ upToFirst p as ↔
      ∃ i : Nat, as[i]? = some a ∧ ∀ j < i, ∀ b, as[j]? = some b → p b = false := by
  induction as with
  | nil => simp [upToFirst]
  | cons c as ih =>
    unfold upToFirst
    constructor
    · intro h
      split at h
      · rw [List.mem_singleton] at h
        exact ⟨0, by simp [h], by simp⟩
      · next hc =>
        rcases List.mem_cons.mp h with rfl | h
        · exact ⟨0, rfl, by simp⟩
        · obtain ⟨i, hi, hbefore⟩ := ih.mp h
          refine ⟨i + 1, hi, fun j hj b hb => ?_⟩
          cases j with
          | zero => exact Option.some.inj hb ▸ Bool.eq_false_iff.mpr hc
          | succ j => exact hbefore j (Nat.lt_of_succ_lt_succ hj) b hb
    · rintro ⟨i, hi, hbefore⟩
      cases i with
      | zero =>
        obtain rfl := Option.some.inj hi
        split <;> simp
      | succ i =>
        have hc : p c = false := hbefore 0 (Nat.zero_lt_succ i) c rfl
        rw [hc, if_neg Bool.false_ne_true]
        exact List.mem_cons_of_mem c
          (ih.mpr ⟨i, hi, fun j hj => hbefore (j + 1) (Nat.succ_lt_succ hj)⟩)

theorem EarliestFailure.unique {subject : String} {filter : Filter} {ss : List Source}
    {i j n m : Nat} {f g : Failure} (hf : EarliestFailure subject filter ss i n f)
    (hg : EarliestFailure subject filter ss j m g) : f = g := by
  obtain ⟨s, hs, hpoint, hfetch⟩ := hf.fails
  obtain ⟨u, hu, hpoint', hfetch'⟩ := hg.fails
  have hle := hf.least j m u _ hu hfetch'
  have hle' := hg.least i n s _ hs hfetch
  obtain rfl : i = j := by omega
  rw [hs, Option.some.injEq] at hu
  subst hu
  rw [hfetch, Reply.after.injEq, Except.error.injEq] at hfetch'
  cases f
  cases g
  simp_all

namespace Polling

variable {subject : String} {filter : Filter} {ss : List Source}

variable (subject filter) in
/-- The points whose sources end in the round after `k` others, in the order of the sources. -/
def endedIn (ss : List Source) (k : Nat) : List ContactPoint :=
  ((upToFirst (fun s => (failureAt subject filter k s).isSome) ss).filter
    (endsAt subject filter k)).map Source.point

variable (subject filter) in
/-- The source of a point has replied by the end of polling: before the earliest failure, or in its
round from no further down. -/
def Heard (ss : List Source) (p : ContactPoint) : Prop :=
  ∃ i s n answer, ss[i]? = some s ∧ s.point = p ∧ s.fetch subject filter = .after n answer ∧
    ∀ j m f, EarliestFailure subject filter ss j m f → n < m ∨ n = m ∧ i ≤ j

theorem endsAt_iff {k : Nat} {s : Source} :
    endsAt subject filter k s = true ↔ ∃ answer, s.fetch subject filter = .after k answer := by
  unfold endsAt
  cases s.fetch subject filter <;> simp [eq_comm]

theorem visit_finished (k : Nat) (t : Trace) (s : Source) :
    (visit subject filter k t s).finished =
      if endsAt subject filter k s then t.finished ++ [s.point] else t.finished := by
  unfold visit
  split <;> split <;> rfl

theorem foldl_visit_finished (k : Nat) (ss : List Source) (t : Trace) :
    (ss.foldl (visit subject filter k) t).finished =
      t.finished ++ (ss.filter (endsAt subject filter k)).map Source.point := by
  induction ss generalizing t with
  | nil => simp
  | cons s ss ih =>
    rw [List.foldl_cons, ih, visit_finished, List.filter_cons]
    split <;> simp

variable (subject filter) in
theorem foldl_visit_upToFirst (k : Nat) (ss : List Source) (t : Trace) :
    ((upToFirst (fun s => (failureAt subject filter k s).isSome) ss).foldl
      (visit subject filter k) t).finished = t.finished ++ endedIn subject filter ss k :=
  foldl_visit_finished k _ t

theorem mem_endedIn_iff {k : Nat} {p : ContactPoint} :
    p ∈ endedIn subject filter ss k ↔
      ∃ i : Nat, ∃ s answer, ss[i]? = some s ∧ s.point = p ∧
        s.fetch subject filter = .after k answer ∧
        ∀ j < i, ∀ u, ss[j]? = some u → failureAt subject filter k u = none := by
  simp only [endedIn, List.mem_map, List.mem_filter, mem_upToFirst_iff, endsAt_iff,
    Option.isSome_eq_false_iff, Option.isNone_iff_eq_none]
  constructor
  · rintro ⟨s, ⟨⟨i, hi, hbefore⟩, answer, hr⟩, hp⟩
    exact ⟨i, s, answer, hi, hp, hr, hbefore⟩
  · rintro ⟨i, s, answer, hi, hp, hr, hbefore⟩
    exact ⟨s, ⟨⟨i, hi, hbefore⟩, answer, hr⟩, hp⟩

theorem endedIn_of_mapM {j k : Nat} {batches : List (List Signal)}
    (h : ss.mapM (answerBy subject filter k) = some batches) (hj : k < j) :
    endedIn subject filter ss j = [] := by
  refine List.eq_nil_iff_forall_not_mem.mpr fun p hp => ?_
  obtain ⟨i, s, answer, hi, -, hr, -⟩ := mem_endedIn_iff.mp hp
  obtain ⟨signals, hsome⟩ :=
    Option.isSome_iff_exists.mp (answerBy_of_mapM h (List.mem_of_getElem? hi))
  obtain ⟨d, hd, hr'⟩ := answerBy_eq_some_iff.mp hsome
  rw [hr, Reply.after.injEq] at hr'
  omega

/-- The trace of some rounds, of which at most the last one meets a failure, is made of what ends in
each of them. -/
theorem rounds_finished {n k : Nat} (t : Trace) (hq : Quiet subject filter (k + n) ss) :
    (rounds subject filter (n + 1) (ss.map (slotAt subject filter k)) t).2.finished =
      t.finished ++ (List.range' k (n + 1)).flatMap (endedIn subject filter ss) := by
  induction n generalizing k t with
  | zero =>
    rw [Nat.add_zero] at hq
    have hlast := foldl_visit_upToFirst subject filter k ss t
    rw [rounds_slotAt t hq, List.range'_one, List.flatMap_singleton]
    cases ss.findSome? (failureAt subject filter k) with
    | some f => exact hlast
    | none => cases ss.mapM (answerBy subject filter k) <;> exact hlast
  | succ n ih =>
    have hnone := hq.findSome?_eq_none (Nat.lt_add_of_pos_right (Nat.zero_lt_succ n))
    have hfirst := foldl_visit_upToFirst subject filter k ss t
    rw [rounds_slotAt t (hq.mono (Nat.le_add_right k _)), hnone, List.range'_succ,
      List.flatMap_cons, ← List.append_assoc]
    cases hm : ss.mapM (answerBy subject filter k) with
    | some batches =>
      have hrest : (List.range' (k + 1) (n + 1)).flatMap (endedIn subject filter ss) = [] :=
        List.flatMap_eq_nil_iff.mpr fun j hj => endedIn_of_mapM hm (List.mem_range'_1.mp hj).1
      rw [hrest, List.append_nil]
      exact hfirst
    | none =>
      rw [Nat.add_succ, ← Nat.succ_add] at hq
      exact (ih _ hq).trans (congrArg (· ++ _) hfirst)

/-- Polling takes its rounds up to the first failure, or up to the last reply where none fails. -/
theorem exists_run_finished (ss : List Source) (subject : String) (filter : Filter) :
    ∃ n, (run ss subject filter).2.finished =
        (List.range (n + 1)).flatMap (endedIn subject filter ss) ∧
      Quiet subject filter n ss ∧
      ((∃ f, ss.findSome? (failureAt subject filter n) = some f) ∨
        (∀ j, Quiet subject filter j ss) ∧
          ∀ s ∈ ss, ∀ d answer, s.fetch subject filter = .after d answer → d ≤ n) := by
  by_cases hfails : ∃ s ∈ ss, ∃ n e, s.fetch subject filter = .after n (.error e)
  · obtain ⟨s, hs, n, e, hr⟩ := hfails
    obtain ⟨m, f, hq, hf⟩ := exists_first_failure hs hr
    have hends := rounds_of_failure (n := m + 1) .empty (Nat.zero_le m) (by omega) hq hf
    have hrun : run ss subject filter = _ := run_eq_rounds (n := m + 1) (hends ▸ nofun)
    refine ⟨m, ?_, hq, .inl ⟨f, hf⟩⟩
    rw [hrun, List.range_eq_range']
    exact rounds_finished .empty (by rwa [Nat.zero_add])
  · have hnone : ∀ s ∈ ss, ∀ n e, s.fetch subject filter ≠ .after n (.error e) :=
      fun s hs n e hr => hfails ⟨s, hs, n, e, hr⟩
    obtain ⟨n, hrun, hlast⟩ := exists_run_eq_rounds ss subject filter
    have hq := quiet_of_forall_ne hnone
    refine ⟨n, ?_, hq n, .inr ⟨hq, hlast⟩⟩
    rw [hrun, List.range_eq_range']
    exact rounds_finished .empty (hq _)

/-- What ends before a failure, or in its round, has been heard. -/
theorem heard_of_mem_endedIn {k n : Nat} {p : ContactPoint} (hq : Quiet subject filter n ss)
    (hk : k ≤ n) (hp : p ∈ endedIn subject filter ss k) : Heard subject filter ss p := by
  obtain ⟨i, s, answer, hi, hpoint, hr, hbefore⟩ := mem_endedIn_iff.mp hp
  refine ⟨i, s, k, answer, hi, hpoint, hr, fun j m f hf => ?_⟩
  obtain ⟨u, hu, hpoint', hr'⟩ := hf.fails
  have hfails := failureAt_eq_some_iff.mpr ⟨hpoint', hr'⟩
  have hm : n ≤ m := Nat.le_of_not_lt fun hlt => by
    rw [hq u (List.mem_of_getElem? hu) m hlt] at hfails
    cases hfails
  rcases Nat.lt_or_eq_of_le (Nat.le_trans hk hm) with hlt | rfl
  · exact .inl hlt
  · refine .inr ⟨rfl, Nat.le_of_not_lt fun hlt => ?_⟩
    rw [hbefore j hlt u hu] at hfails
    cases hfails

theorem mem_run_finished_iff {p : ContactPoint} :
    p ∈ (run ss subject filter).2.finished ↔ Heard subject filter ss p := by
  obtain ⟨n, hfinished, hq, hlast⟩ := exists_run_finished ss subject filter
  rw [hfinished, List.mem_flatMap]
  constructor
  · rintro ⟨k, hk, hp⟩
    exact heard_of_mem_endedIn hq (Nat.le_of_lt_succ (List.mem_range.mp hk)) hp
  · rintro ⟨i, s, k, answer, hi, hpoint, hr, hfirst⟩
    have hs := List.mem_of_getElem? hi
    rcases hlast with ⟨f, hf⟩ | ⟨hquiet, hlast⟩
    · obtain ⟨j, hearliest⟩ := earliestFailure_of_findSome? hq hf
      have hk := hfirst j n f hearliest
      refine ⟨k, List.mem_range.mpr (by omega),
        mem_endedIn_iff.mpr ⟨i, s, answer, hi, hpoint, hr, fun j' hj' u hu => ?_⟩⟩
      -- A failure further up in the same round would come before the earliest one.
      refine Option.eq_none_iff_forall_ne_some.mpr fun g hg => ?_
      have hle := hearliest.least j' k u _ hu (failureAt_eq_some_iff.mp hg).2
      omega
    · refine ⟨k, List.mem_range.mpr (Nat.lt_succ_of_le (hlast s hs k _ hr)),
        mem_endedIn_iff.mpr ⟨i, s, answer, hi, hpoint, hr, fun j _ u hu => ?_⟩⟩
      exact hquiet (k + 1) u (List.mem_of_getElem? hu) k (Nat.lt_succ_self k)

instance (p : ContactPoint) : Decidable (Heard subject filter ss p) :=
  decidable_of_iff _ mem_run_finished_iff

theorem nodup_run_finished (hpoints : (ss.map Source.point).Nodup) :
    (run ss subject filter).2.finished.Nodup := by
  obtain ⟨n, hfinished, -⟩ := exists_run_finished ss subject filter
  rw [hfinished, List.nodup_flatMap]
  constructor
  · intro k _
    exact hpoints.sublist ((List.filter_sublist.trans (upToFirst_sublist _ ss)).map Source.point)
  · refine List.nodup_range.imp fun {j k} hne p hj hk => hne ?_
    obtain ⟨i, s, answer, hi, hpoint, hr, -⟩ := mem_endedIn_iff.mp hj
    obtain ⟨i', u, answer', hi', hpoint', hr', -⟩ := mem_endedIn_iff.mp hk
    have hsame := List.inj_on_of_nodup_map hpoints (List.mem_of_getElem? hi)
      (List.mem_of_getElem? hi') (hpoint.trans hpoint'.symm)
    rw [hsame, hr', Reply.after.injEq] at hr
    exact hr.1.symm

end Polling
end ContactHistory
