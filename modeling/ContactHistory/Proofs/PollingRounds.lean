import ContactHistory.Polling

namespace ContactHistory

/-- The members of a list up to the first with a property, that one included. -/
def upToFirst {α : Type} (p : α → Bool) : List α → List α
  | [] => []
  | a :: as => if p a then [a] else a :: upToFirst p as

namespace Polling

/-- The signals that a reply brings in the end. -/
def signalsOf : Reply → List Signal
  | .after _ (.ok signals) => signals
  | _ => []

variable (subject : String) (filter : Filter)

/-- What is left of a reply after some rounds of waiting. -/
def aged (k : Nat) : Reply → Reply
  | .stalled => .stalled
  | .after n answer => .after (n - k) answer

/-- The failure of a source that fails when `k` rounds have passed. -/
def failureAt (k : Nat) (s : Source) : Option Failure :=
  match s.fetch subject filter with
  | .after n (.error e) => if n = k then some ⟨s.point, e⟩ else none
  | _ => none

/-- The signals of a source that has answered when the round after `k` others is over. -/
def answerBy (k : Nat) (s : Source) : Option (List Signal) :=
  match s.fetch subject filter with
  | .after n (.ok signals) => if n ≤ k then some signals else none
  | _ => none

def endsAt (k : Nat) (s : Source) : Bool :=
  match s.fetch subject filter with
  | .after n _ => n = k
  | .stalled => false

/-- The slot of a source when `k` rounds have passed. -/
def slotAt : Nat → Source → Slot
  | 0, s => .unasked s
  | k + 1, s =>
    match answerBy subject filter k s with
    | some signals => .answered signals
    | none => .waiting s.point (aged (k + 1) (s.fetch subject filter))

/-- What looking at a source leaves in the trace when `k` rounds have passed. -/
def visit (k : Nat) (t : Trace) (s : Source) : Trace :=
  let t := if k = 0 then t.addCall ⟨s.point, subject, filter⟩ (s.ask subject filter).queries else t
  if endsAt subject filter k s then t.addFinished s.point else t

/-- No source has failed when `k` rounds have passed. -/
def Quiet (k : Nat) (ss : List Source) : Prop :=
  ∀ s ∈ ss, ∀ j < k, failureAt subject filter j s = none

variable {subject filter}

theorem failureAt_eq_some_iff {k : Nat} {s : Source} {f : Failure} :
    failureAt subject filter k s = some f ↔
      f.point = s.point ∧ s.fetch subject filter = .after k (.error f.error) := by
  unfold failureAt
  cases s.fetch subject filter with
  | stalled => simp
  | after n answer =>
    cases answer with
    | ok signals => simp
    | error e =>
      cases f
      simp only [Option.ite_none_right_eq_some, Option.some.injEq, Failure.mk.injEq,
        Reply.after.injEq, Except.error.injEq]
      constructor
      · rintro ⟨rfl, rfl, rfl⟩
        exact ⟨rfl, rfl, rfl⟩
      · rintro ⟨rfl, rfl, rfl⟩
        exact ⟨rfl, rfl, rfl⟩

theorem answerBy_eq_some_iff {k : Nat} {s : Source} {signals : List Signal} :
    answerBy subject filter k s = some signals ↔
      ∃ n ≤ k, s.fetch subject filter = .after n (.ok signals) := by
  unfold answerBy
  cases s.fetch subject filter with
  | stalled => simp
  | after n answer =>
    cases answer with
    | ok us =>
      simp only [Option.ite_none_right_eq_some, Option.some.injEq, Reply.after.injEq,
        Except.ok.injEq]
      constructor
      · rintro ⟨hn, rfl⟩
        exact ⟨n, hn, rfl, rfl⟩
      · rintro ⟨_, hn, rfl, rfl⟩
        exact ⟨hn, rfl⟩
    | error e => simp

/-- Looking at a reply that waits no longer, or goes on waiting. -/
theorem look_aged {k : Nat} {s : Source} (t : Trace)
    (h : ∀ n answer, s.fetch subject filter = .after n answer → k ≤ n) :
    Slot.look s.point (aged k (s.fetch subject filter)) t =
      (match failureAt subject filter k s with
        | some f => .error f
        | none => .ok (slotAt subject filter (k + 1) s),
      if endsAt subject filter k s then t.addFinished s.point else t) := by
  cases hr : s.fetch subject filter with
  | stalled => simp [failureAt, endsAt, slotAt, answerBy, hr, aged, Slot.look]
  | after n answer =>
    obtain ⟨m, rfl⟩ := Nat.exists_eq_add_of_le (h n answer hr)
    cases m with
    | zero => cases answer <;> simp [failureAt, endsAt, slotAt, answerBy, hr, aged, Slot.look]
    | succ m =>
      have hm : k + (m + 1) - k = m + 1 := by omega
      have hm' : k + (m + 1) - (k + 1) = m := by omega
      have hk : ¬k + (m + 1) ≤ k := by omega
      cases answer <;>
        simp [failureAt, endsAt, slotAt, answerBy, hr, aged, Slot.look, hm, hm', hk]

/-- A source that has neither failed nor answered is still waiting. -/
theorem le_of_answerBy_eq_none {k n : Nat} {s : Source} {answer : Except SourceError (List Signal)}
    (h : ∀ j < k + 1, failureAt subject filter j s = none)
    (ha : answerBy subject filter k s = none) (hr : s.fetch subject filter = .after n answer) :
    k + 1 ≤ n := by
  refine Decidable.byContradiction fun hn => ?_
  have hk : n < k + 1 := Nat.lt_of_not_le hn
  cases answer with
  | ok signals =>
    have hs := answerBy_eq_some_iff.mpr ⟨n, Nat.le_of_lt_succ hk, hr⟩
    rw [ha] at hs
    cases hs
  | error e =>
    have hf := failureAt_eq_some_iff.mpr
      (show (⟨s.point, e⟩ : Failure).point = s.point ∧ _ from ⟨rfl, hr⟩)
    rw [h n hk] at hf
    cases hf

/-- Polling a source brings its slot into the next round, unless the source fails. -/
theorem poll_slotAt {k : Nat} {s : Source} (t : Trace)
    (h : ∀ j < k, failureAt subject filter j s = none) :
    (slotAt subject filter k s).poll subject filter t =
      (match failureAt subject filter k s with
        | some f => .error f
        | none => .ok (slotAt subject filter (k + 1) s),
      visit subject filter k t s) := by
  cases k with
  | zero =>
    have hz : aged 0 (s.fetch subject filter) = s.fetch subject filter := by
      cases s.fetch subject filter <;> rfl
    have hl : Slot.look s.point (aged 0 (s.fetch subject filter))
        (t.addCall ⟨s.point, subject, filter⟩ (s.ask subject filter).queries) = _ :=
      look_aged _ fun n _ _ => Nat.zero_le n
    rw [hz] at hl
    exact hl
  | succ k =>
    cases ha : answerBy subject filter k s with
    | some signals =>
      obtain ⟨n, hn, hr⟩ := answerBy_eq_some_iff.mp ha
      have hk : ¬n = k + 1 := by omega
      have hn' : n ≤ k + 1 := by omega
      simp [slotAt, visit, failureAt, endsAt, answerBy, hr, hn, hn', hk, Slot.poll]
    | none =>
      have hslot : slotAt subject filter (k + 1) s =
          .waiting s.point (aged (k + 1) (s.fetch subject filter)) := by
        rw [slotAt, ha]
      rw [hslot]
      exact look_aged t fun n answer hr => le_of_answerBy_eq_none h ha hr

theorem Quiet.of_cons {k : Nat} {s : Source} {ss : List Source}
    (h : Quiet subject filter k (s :: ss)) : Quiet subject filter k ss :=
  fun u hu => h u (List.mem_cons_of_mem s hu)

/-- A round over slots that are `k` rounds old ends with the first failure of that age, or makes
every slot one round older. -/
theorem round_slotAt {k : Nat} {ss : List Source} (t : Trace) (h : Quiet subject filter k ss) :
    round subject filter (ss.map (slotAt subject filter k)) t =
      (match ss.findSome? (failureAt subject filter k) with
        | some f => .error f
        | none => .ok (ss.map (slotAt subject filter (k + 1))),
      (upToFirst (fun s => (failureAt subject filter k s).isSome) ss).foldl
        (visit subject filter k) t) := by
  induction ss generalizing t with
  | nil => rfl
  | cons s ss ih =>
    rw [List.map_cons, round, poll_slotAt t (h s List.mem_cons_self), upToFirst,
      List.findSome?_cons]
    cases hf : failureAt subject filter k s with
    | some f => rfl
    | none =>
      simp only [ih _ h.of_cons, Option.isSome_none, Bool.false_eq_true, if_false,
        List.foldl_cons]
      cases ss.findSome? (failureAt subject filter k) with
      | some f => rfl
      | none => rfl

theorem signals?_slotAt (k : Nat) (s : Source) :
    (slotAt subject filter (k + 1) s).signals? = answerBy subject filter k s := by
  cases h : answerBy subject filter k s <;> simp [slotAt, h, Slot.signals?]

theorem mapM_signals?_slotAt (k : Nat) (ss : List Source) :
    (ss.map (slotAt subject filter (k + 1))).mapM Slot.signals? =
      ss.mapM (answerBy subject filter k) := by
  induction ss with
  | nil => rfl
  | cons s ss ih => rw [List.map_cons, List.mapM_cons, List.mapM_cons, signals?_slotAt, ih]

theorem rounds_slotAt {n k : Nat} {ss : List Source} (t : Trace) (h : Quiet subject filter k ss) :
    let t' := (upToFirst (fun s => (failureAt subject filter k s).isSome) ss).foldl
      (visit subject filter k) t
    rounds subject filter (n + 1) (ss.map (slotAt subject filter k)) t =
      match ss.findSome? (failureAt subject filter k) with
      | some f => (.failed f, t')
      | none =>
        match ss.mapM (answerBy subject filter k) with
        | some batches => (.answered batches, t')
        | none => rounds subject filter n (ss.map (slotAt subject filter (k + 1))) t' := by
  intro t'
  rw [rounds, round_slotAt t h]
  cases ss.findSome? (failureAt subject filter k) with
  | some f => rfl
  | none =>
    simp only [mapM_signals?_slotAt]
    rfl

theorem Quiet.succ {k : Nat} {ss : List Source} (h : Quiet subject filter k ss)
    (hf : ss.findSome? (failureAt subject filter k) = none) : Quiet subject filter (k + 1) ss := by
  intro s hs j hj
  rcases Nat.lt_succ_iff_lt_or_eq.mp hj with hj | rfl
  · exact h s hs j hj
  · exact List.findSome?_eq_none_iff.mp hf s hs

theorem Quiet.mono {j k : Nat} {ss : List Source} (h : Quiet subject filter k ss) (hj : j ≤ k) :
    Quiet subject filter j ss :=
  fun s hs i hi => h s hs i (Nat.lt_of_lt_of_le hi hj)

theorem Quiet.findSome?_eq_none {j k : Nat} {ss : List Source} (h : Quiet subject filter k ss)
    (hj : j < k) : ss.findSome? (failureAt subject filter j) = none :=
  List.findSome?_eq_none_iff.mpr fun s hs => h s hs j hj

theorem quiet_zero (ss : List Source) : Quiet subject filter 0 ss :=
  fun _ _ j hj => absurd hj (Nat.not_lt_zero j)

end Polling
end ContactHistory
