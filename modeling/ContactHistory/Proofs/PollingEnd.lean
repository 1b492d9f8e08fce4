import ContactHistory.Proofs.PollingRounds
import Mathlib.Data.Nat.Find

namespace ContactHistory.Polling

variable {subject : String} {filter : Filter}

theorem mapM_answerBy_of_forall {k : Nat} {ss : List Source} {g : Source → List Signal}
    (h : ∀ s ∈ ss, answerBy subject filter k s = some (g s)) :
    ss.mapM (answerBy subject filter k) = some (ss.map g) := by
  induction ss with
  | nil => rfl
  | cons s ss ih =>
    rw [List.mapM_cons, h s List.mem_cons_self, ih fun u hu => h u (List.mem_cons_of_mem s hu)]
    rfl

theorem answerBy_of_mapM {k : Nat} {ss : List Source} {batches : List (List Signal)}
    (h : ss.mapM (answerBy subject filter k) = some batches) {s : Source} (hs : s ∈ ss) :
    (answerBy subject filter k s).isSome := by
  induction ss generalizing batches with
  | nil => simp at hs
  | cons u us ih =>
    rw [List.mapM_cons] at h
    cases hu : answerBy subject filter k u with
    | none => simp [hu] at h
    | some signals =>
      cases hb : us.mapM (answerBy subject filter k) with
      | none => simp [hu, hb] at h
      | some rest =>
        rcases List.mem_cons.mp hs with rfl | hs
        · rw [hu]
          rfl
        · exact ih hb hs

theorem mapM_answerBy_eq_none {k : Nat} {ss : List Source} {s : Source} (hs : s ∈ ss)
    (h : answerBy subject filter k s = none) : ss.mapM (answerBy subject filter k) = none := by
  cases hm : ss.mapM (answerBy subject filter k) with
  | none => rfl
  | some batches =>
    have ha := answerBy_of_mapM hm hs
    rw [h] at ha
    cases ha

theorem answerBy_eq_none_of_failureAt {j k : Nat} {s : Source} {f : Failure}
    (h : failureAt subject filter j s = some f) : answerBy subject filter k s = none := by
  have hr := (failureAt_eq_some_iff.mp h).2
  simp [answerBy, hr]

theorem rounds_of_failure {n k m : Nat} {ss : List Source} (t : Trace) {f : Failure}
    (hk : k ≤ m) (hn : m < k + n) (hq : Quiet subject filter m ss)
    (hf : ss.findSome? (failureAt subject filter m) = some f) :
    (rounds subject filter n (ss.map (slotAt subject filter k)) t).1 = .failed f := by
  induction n generalizing k t with
  | zero => omega
  | succ n ih =>
    rw [rounds_slotAt t (hq.mono hk)]
    rcases Nat.lt_or_eq_of_le hk with hlt | rfl
    · obtain ⟨s, hs, hfs⟩ := List.exists_of_findSome?_eq_some hf
      rw [hq.findSome?_eq_none hlt, mapM_answerBy_eq_none hs (answerBy_eq_none_of_failureAt hfs)]
      exact ih _ hlt (by omega)
    · rw [hf]

/-- Where no source fails, polling ends when the last one has answered. -/
theorem rounds_of_answers {n k m : Nat} {ss : List Source} (t : Trace) {g : Source → List Signal}
    (hk : k ≤ m) (hn : m < k + n) (hq : ∀ j, Quiet subject filter j ss)
    (ha : ∀ s ∈ ss, answerBy subject filter m s = some (g s)) :
    (rounds subject filter n (ss.map (slotAt subject filter k)) t).1 = .answered (ss.map g) := by
  induction n generalizing k t with
  | zero => omega
  | succ n ih =>
    rw [rounds_slotAt t (hq k), (hq (k + 1)).findSome?_eq_none (Nat.lt_succ_self k)]
    cases hm : ss.mapM (answerBy subject filter k) with
    | some batches =>
      -- An answer that is there after `k` rounds is the one of the later round.
      have hg : ∀ s ∈ ss, answerBy subject filter k s = some (g s) := by
        intro s hs
        obtain ⟨signals, hsome⟩ := Option.isSome_iff_exists.mp (answerBy_of_mapM hm hs)
        obtain ⟨d, hd, hr⟩ := answerBy_eq_some_iff.mp hsome
        have hlater := answerBy_eq_some_iff.mpr ⟨d, Nat.le_trans hd hk, hr⟩
        rw [hsome, ← ha s hs, hlater]
      rw [mapM_answerBy_of_forall hg] at hm
      cases hm
      rfl
    | none =>
      have hlt : k < m := by
        refine Nat.lt_of_le_of_ne hk fun he => ?_
        rw [he, mapM_answerBy_of_forall ha] at hm
        cases hm
      exact ih _ hlt (by omega)

/-- Where no source fails and one is stalled, no number of rounds ends polling. -/
theorem rounds_of_stalled {k : Nat} {ss : List Source} (n : Nat) (t : Trace) {s : Source}
    (hs : s ∈ ss) (hr : s.fetch subject filter = .stalled)
    (hq : ∀ j, Quiet subject filter j ss) :
    (rounds subject filter n (ss.map (slotAt subject filter k)) t).1 = .stalled := by
  induction n generalizing k t with
  | zero => rfl
  | succ n ih =>
    have ha : answerBy subject filter k s = none := by simp [answerBy, hr]
    rw [rounds_slotAt t (hq k), (hq (k + 1)).findSome?_eq_none (Nat.lt_succ_self k),
      mapM_answerBy_eq_none hs ha]
    exact ih _

theorem rounds_add {n : Nat} {slots : List Slot} {t : Trace} (m : Nat)
    (h : (rounds subject filter n slots t).1 ≠ .stalled) :
    rounds subject filter (n + m) slots t = rounds subject filter n slots t := by
  induction n generalizing slots t with
  | zero => exact absurd rfl h
  | succ n ih =>
    rw [Nat.succ_add, rounds, rounds]
    rw [rounds] at h
    cases hr : round subject filter slots t with
    | mk result t' =>
      rw [hr] at h
      cases result with
      | error f => rfl
      | ok slots =>
        simp only at h ⊢
        cases hm : slots.mapM Slot.signals? with
        | some batches => rfl
        | none =>
          rw [hm] at h
          exact ih h

theorem le_foldl_max (ns : List Nat) (m : Nat) :
    m ≤ ns.foldl max m ∧ ∀ n ∈ ns, n ≤ ns.foldl max m := by
  induction ns generalizing m with
  | nil => simp
  | cons k ns ih =>
    obtain ⟨hm, hns⟩ := ih (max m k)
    rw [List.foldl_cons]
    refine ⟨by omega, fun n hn => ?_⟩
    rcases List.mem_cons.mp hn with rfl | hn
    · omega
    · exact hns n hn

/-- Polling takes at least one round, and more rounds than any answer waits. -/
theorem exists_run_eq_rounds (ss : List Source) (subject : String) (filter : Filter) :
    ∃ n, run ss subject filter =
        rounds subject filter (n + 1) (ss.map (slotAt subject filter 0)) .empty ∧
      ∀ s ∈ ss, ∀ d answer, s.fetch subject filter = .after d answer → d ≤ n := by
  refine ⟨_, rfl, fun s hs d answer hr => ?_⟩
  have hmem : d ∈ ss.map fun s => patience (s.fetch subject filter) :=
    List.mem_map.mpr ⟨s, hs, by rw [hr]; rfl⟩
  exact (le_foldl_max _ 0).2 d hmem

theorem quiet_of_forall_ne {ss : List Source}
    (h : ∀ s ∈ ss, ∀ n e, s.fetch subject filter ≠ .after n (.error e)) (k : Nat) :
    Quiet subject filter k ss := by
  intro s hs j _
  refine Option.eq_none_iff_forall_ne_some.mpr fun f hf => ?_
  exact h s hs j f.error (failureAt_eq_some_iff.mp hf).2

/-- Where some source fails, there is a first round with a failure. -/
theorem exists_first_failure {ss : List Source} {s : Source} (hs : s ∈ ss) {n : Nat}
    {e : SourceError} (hr : s.fetch subject filter = .after n (.error e)) :
    ∃ m f, Quiet subject filter m ss ∧ ss.findSome? (failureAt subject filter m) = some f := by
  have hex : ∃ m, ∃ u ∈ ss, ∃ f, failureAt subject filter m u = some f :=
    ⟨n, s, hs, ⟨s.point, e⟩, failureAt_eq_some_iff.mpr ⟨rfl, hr⟩⟩
  classical
  obtain ⟨u, hu, f, hf⟩ := Nat.find_spec hex
  have hsome : (ss.findSome? (failureAt subject filter (Nat.find hex))).isSome :=
    List.findSome?_isSome_iff.mpr ⟨u, hu, by rw [hf]; rfl⟩
  obtain ⟨g, hg⟩ := Option.isSome_iff_exists.mp hsome
  refine ⟨Nat.find hex, g, fun v hv j hj => ?_, hg⟩
  refine Option.eq_none_iff_forall_ne_some.mpr fun f' hf' => ?_
  exact Nat.find_min hex hj ⟨v, hv, f', hf'⟩

theorem run_of_failure {ss : List Source} {m : Nat} {f : Failure}
    (hq : Quiet subject filter m ss)
    (hf : ss.findSome? (failureAt subject filter m) = some f) :
    (run ss subject filter).1 = .failed f := by
  obtain ⟨n, hrun, hn⟩ := exists_run_eq_rounds ss subject filter
  obtain ⟨s, hs, hfs⟩ := List.exists_of_findSome?_eq_some hf
  have hm : m ≤ n := hn s hs m _ (failureAt_eq_some_iff.mp hfs).2
  rw [hrun]
  exact rounds_of_failure _ (Nat.zero_le m) (by omega) hq hf

theorem run_of_answers {ss : List Source}
    (h : ∀ s ∈ ss, ∃ n signals, s.fetch subject filter = .after n (.ok signals)) :
    (run ss subject filter).1 =
      .answered (ss.map fun s => signalsOf (s.fetch subject filter)) := by
  obtain ⟨n, hrun, hn⟩ := exists_run_eq_rounds ss subject filter
  rw [hrun]
  refine rounds_of_answers _ (Nat.zero_le n) (by omega) (quiet_of_forall_ne ?_) ?_
  · intro s hs d e he
    obtain ⟨d', signals, hd'⟩ := h s hs
    rw [hd'] at he
    cases he
  · intro s hs
    obtain ⟨d, signals, hd⟩ := h s hs
    rw [hd]
    exact answerBy_eq_some_iff.mpr ⟨d, hn s hs d _ hd, hd⟩

theorem run_of_stalled {ss : List Source} {s : Source} (hs : s ∈ ss)
    (hr : s.fetch subject filter = .stalled)
    (h : ∀ s ∈ ss, ∀ n e, s.fetch subject filter ≠ .after n (.error e)) :
    (run ss subject filter).1 = .stalled := by
  obtain ⟨n, hrun, _⟩ := exists_run_eq_rounds ss subject filter
  rw [hrun]
  exact rounds_of_stalled _ _ hs hr (quiet_of_forall_ne h)

/-- Some source fails, or none does and some source is stalled, or all answer. -/
theorem replies_cases (ss : List Source) (subject : String) (filter : Filter) :
    (∃ s ∈ ss, ∃ n e, s.fetch subject filter = .after n (.error e)) ∨
      (∀ s ∈ ss, ∀ n e, s.fetch subject filter ≠ .after n (.error e)) ∧
          (∃ s ∈ ss, s.fetch subject filter = .stalled) ∨
        ∀ s ∈ ss, ∃ n signals, s.fetch subject filter = .after n (.ok signals) := by
  by_cases hfailed : ∃ s ∈ ss, ∃ n e, s.fetch subject filter = .after n (.error e)
  · exact .inl hfailed
  · have hnone : ∀ s ∈ ss, ∀ n e, s.fetch subject filter ≠ .after n (.error e) :=
      fun s hs n e hr => hfailed ⟨s, hs, n, e, hr⟩
    by_cases hstalled : ∃ s ∈ ss, s.fetch subject filter = .stalled
    · exact .inr (.inl ⟨hnone, hstalled⟩)
    · refine .inr (.inr fun s hs => ?_)
      cases hr : s.fetch subject filter with
      | stalled => exact absurd ⟨s, hs, hr⟩ hstalled
      | after n answer =>
        cases answer with
        | error e => exact absurd hr (hnone s hs n e)
        | ok signals => exact ⟨n, signals, rfl⟩

theorem answers_of_run {ss : List Source} {batches : List (List Signal)}
    (h : (run ss subject filter).1 = .answered batches) :
    ∀ s ∈ ss, ∃ n signals, s.fetch subject filter = .after n (.ok signals) := by
  rcases replies_cases ss subject filter with ⟨s, hs, n, e, hr⟩ | ⟨hnone, s, hs, hr⟩ | hanswers
  · obtain ⟨m, f, hq, hf⟩ := exists_first_failure hs hr
    rw [run_of_failure hq hf] at h
    cases h
  · rw [run_of_stalled hs hr hnone] at h
    cases h
  · exact hanswers

/-- Polling for any number of rounds that end it is a whole polling. -/
theorem run_eq_rounds {ss : List Source} {n : Nat}
    (h : (rounds subject filter n (ss.map .unasked) .empty).1 ≠ .stalled) :
    run ss subject filter = rounds subject filter n (ss.map .unasked) .empty := by
  have h0 : (rounds subject filter n (ss.map (slotAt subject filter 0)) .empty).1 ≠ .stalled := h
  have hends : (run ss subject filter).1 ≠ .stalled := by
    rcases replies_cases ss subject filter with ⟨s, hs, d, e, hr⟩ | ⟨hnone, s, hs, hr⟩ | hanswers
    · obtain ⟨m, f, hq, hm⟩ := exists_first_failure hs hr
      rw [run_of_failure hq hm]
      simp
    · exact absurd (rounds_of_stalled n .empty hs hr (quiet_of_forall_ne hnone)) h0
    · rw [run_of_answers hanswers]
      simp
  obtain ⟨m, hrun, _⟩ := exists_run_eq_rounds ss subject filter
  rw [hrun] at hends ⊢
  calc
    _ = rounds subject filter (m + 1 + n) (ss.map .unasked) .empty := (rounds_add n hends).symm
    _ = rounds subject filter (n + (m + 1)) (ss.map .unasked) .empty := by rw [Nat.add_comm]
    _ = _ := rounds_add (m + 1) h

/-! ### What is asked -/

/-- What was asked so far: the calls of sources, and the queries that they put. -/
def Trace.asked (t : Trace) : List Call × List Database.Query := (t.calls, t.queries)

theorem asked_visit_zero (t : Trace) (s : Source) :
    (visit subject filter 0 t s).asked =
      (t.calls ++ [⟨s.point, subject, filter⟩], t.queries ++ (s.ask subject filter).queries) := by
  rw [visit, if_pos rfl]
  split <;> rfl

theorem asked_visit_succ (k : Nat) (t : Trace) (s : Source) :
    (visit subject filter (k + 1) t s).asked = t.asked := by
  rw [visit, if_neg (Nat.succ_ne_zero k)]
  split <;> rfl

theorem asked_foldl_visit_zero (ss : List Source) (t : Trace) :
    (ss.foldl (visit subject filter 0) t).asked =
      (t.calls ++ ss.map fun s => ⟨s.point, subject, filter⟩,
        t.queries ++ ss.flatMap fun s => (s.ask subject filter).queries) := by
  induction ss generalizing t with
  | nil => simp [Trace.asked]
  | cons s ss ih =>
    have hstep : (visit subject filter 0 t s).asked = _ := asked_visit_zero t s
    obtain ⟨hcalls, hqueries⟩ := Prod.mk.inj hstep
    rw [List.foldl_cons, ih, hcalls, hqueries]
    simp

theorem asked_foldl_visit_succ (k : Nat) (ss : List Source) (t : Trace) :
    (ss.foldl (visit subject filter (k + 1)) t).asked = t.asked := by
  induction ss generalizing t with
  | nil => rfl
  | cons s ss ih => rw [List.foldl_cons, ih, asked_visit_succ]

theorem asked_rounds_succ {k : Nat} {ss : List Source} (n : Nat) (t : Trace)
    (hq : Quiet subject filter (k + 1) ss) :
    (rounds subject filter n (ss.map (slotAt subject filter (k + 1))) t).2.asked = t.asked := by
  induction n generalizing k t with
  | zero => rfl
  | succ n ih =>
    rw [rounds_slotAt t hq]
    cases hf : ss.findSome? (failureAt subject filter (k + 1)) with
    | some f => exact asked_foldl_visit_succ k _ t
    | none =>
      cases ss.mapM (answerBy subject filter (k + 1)) with
      | some batches => exact asked_foldl_visit_succ k _ t
      | none => exact (ih _ (hq.succ hf)).trans (asked_foldl_visit_succ k _ t)

/-- The sources that are asked are those up to the first that fails at once. -/
theorem asked_run (ss : List Source) (subject : String) (filter : Filter) :
    let asked := upToFirst (fun s => (failureAt subject filter 0 s).isSome) ss
    (run ss subject filter).2.asked =
      (asked.map fun s => ⟨s.point, subject, filter⟩,
        asked.flatMap fun s => (s.ask subject filter).queries) := by
  intro asked
  obtain ⟨n, hrun, _⟩ := exists_run_eq_rounds ss subject filter
  have hfirst : (asked.foldl (visit subject filter 0) .empty).asked =
      (asked.map fun s => ⟨s.point, subject, filter⟩,
        asked.flatMap fun s => (s.ask subject filter).queries) :=
    asked_foldl_visit_zero asked .empty
  rw [hrun, rounds_slotAt .empty (quiet_zero ss)]
  cases hf : ss.findSome? (failureAt subject filter 0) with
  | some f => exact hfirst
  | none =>
    cases ss.mapM (answerBy subject filter 0) with
    | some batches => exact hfirst
    | none => exact (asked_rounds_succ n _ ((quiet_zero ss).succ hf)).trans hfirst

theorem run_calls (ss : List Source) (subject : String) (filter : Filter) :
    (run ss subject filter).2.calls =
      (upToFirst (fun s => (failureAt subject filter 0 s).isSome) ss).map
        fun s => ⟨s.point, subject, filter⟩ :=
  congrArg Prod.fst (asked_run ss subject filter)

theorem run_queries (ss : List Source) (subject : String) (filter : Filter) :
    (run ss subject filter).2.queries =
      (upToFirst (fun s => (failureAt subject filter 0 s).isSome) ss).flatMap
        fun s => (s.ask subject filter).queries :=
  congrArg Prod.snd (asked_run ss subject filter)

end ContactHistory.Polling
