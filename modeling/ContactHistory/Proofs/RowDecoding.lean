import ContactHistory.Database.Basic
import ContactHistory.Proofs.Rows

namespace ContactHistory

namespace Direction

def spellings : Direction → List String
  | inward => ["In", "in"]
  | outward => ["Out", "out"]

theorem read?_eq_some_iff {text : String} {d : Direction} :
    read? text = some d ↔ text ∈ d.spellings := by
  unfold read?
  split
  all_goals cases d <;> simp_all [spellings]

theorem read?_eq_none_iff {text : String} :
    read? text = none ↔ ∀ d : Direction, text ∉ d.spellings := by
  rw [Option.eq_none_iff_forall_ne_some]
  exact forall_congr' fun _ => not_congr read?_eq_some_iff

end Direction

namespace Database

/-- The values of a row of events whose columns have the types that they should. -/
structure EventLists where
  counterparty : String
  directions : List String
  values : List (Option String)
  times : List String

namespace EventLists

def row (l : EventLists) : EventRow :=
  ⟨.value l.counterparty, .value (l.directions.map some), .value l.values,
    .value (l.times.map some)⟩

def signal (l : EventLists) (point : ContactPoint) : Except RowFault Signal :=
  signalOfLists point l.counterparty l.directions l.values l.times

def Aligned (l : EventLists) : Prop :=
  l.directions.length = l.values.length ∧ l.directions.length = l.times.length

/-- Every direction of the row is one that there is. -/
def Directed (l : EventLists) : Prop := ∀ text ∈ l.directions, ∃ d : Direction, text ∈ d.spellings

/-- The signal has what the row has, event by event: the direction, the value or an empty text for
none, and the time. -/
structure Shows (l : EventLists) (point : ContactPoint) (s : Signal) : Prop where
  point : s.point = point
  counterparty : s.counterparty = Address.normalize l.counterparty
  directions : List.Forall₂ (fun text d => text ∈ Direction.spellings d) l.directions s.directions
  values : s.values = l.values.map fun v => v.getD ""
  times : s.times = l.times.map Instant.ofText

end EventLists

/-- Lists of one length are empty if not all of them have a first member. -/
theorem eq_nil_of_length_eq {α β γ : Type} {as : List α} {bs : List β} {cs : List γ}
    (hb : as.length = bs.length) (hc : as.length = cs.length)
    (h : ∀ a as' b bs' c cs', as = a :: as' → bs = b :: bs' → cs = c :: cs' → False) :
    as = [] ∧ bs = [] ∧ cs = [] := by
  cases as with
  | nil => exact ⟨rfl, List.length_eq_zero_iff.mp hb.symm, List.length_eq_zero_iff.mp hc.symm⟩
  | cons a as =>
    obtain ⟨b, bs, rfl⟩ := List.exists_cons_of_length_eq_add_one hb.symm
    obtain ⟨c, cs, rfl⟩ := List.exists_cons_of_length_eq_add_one hc.symm
    exact (h a as b bs c cs rfl rfl rfl).elim

/-- The direction that a text of a row stands for. -/
def readDirection (point : ContactPoint) (text : String) : Except RowFault Direction :=
  match Direction.read? text with
  | none => .error (.unknownDirection point text)
  | some d => .ok d

theorem readDirection_eq_ok_iff {point : ContactPoint} {text : String} {d : Direction} :
    readDirection point text = .ok d ↔ text ∈ d.spellings := by
  rw [← Direction.read?_eq_some_iff, readDirection]
  cases Direction.read? text <;> simp

theorem readDirection_eq_error_iff {point : ContactPoint} {text : String} {f : RowFault} :
    readDirection point text = .error f ↔
      (∀ d : Direction, text ∉ d.spellings) ∧ f = .unknownDirection point text := by
  rw [← Direction.read?_eq_none_iff, readDirection]
  cases Direction.read? text <;> simp [eq_comm]

/-- The events whose parts stand side by side in three lists. -/
def eventsOf : List Direction → List (Option String) → List String → List Event
  | d :: ds, v :: vs, t :: ts => ⟨d, v.getD "", Instant.ofText t⟩ :: eventsOf ds vs ts
  | _, _, _ => []

theorem parts_eventsOf {ds : List Direction} {vs : List (Option String)} {ts : List String}
    (hv : ds.length = vs.length) (ht : ds.length = ts.length) :
    (eventsOf ds vs ts).map Event.direction = ds ∧
      (eventsOf ds vs ts).map Event.value = vs.map (fun v => v.getD "") ∧
        (eventsOf ds vs ts).map Event.time = ts.map Instant.ofText := by
  fun_induction eventsOf ds vs ts with
  | case1 d ds v vs t ts ih =>
    obtain ⟨hds, hvs, hts⟩ := ih (Nat.succ.inj hv) (Nat.succ.inj ht)
    exact ⟨by simp [hds], by simp [hvs], by simp [hts]⟩
  | case2 ds vs ts hne =>
    obtain ⟨rfl, rfl, rfl⟩ := eq_nil_of_length_eq hv ht hne
    exact ⟨rfl, rfl, rfl⟩

/-- Only the directions decide whether lists of one length are events. -/
theorem eventsOfLists_eq {point : ContactPoint} {ds : List String} {vs : List (Option String)}
    {ts : List String} (hv : ds.length = vs.length) (ht : ds.length = ts.length) :
    eventsOfLists point ds vs ts =
      (ds.mapM (readDirection point)).map fun directions => eventsOf directions vs ts := by
  fun_induction eventsOfLists point ds vs ts with
  | case1 d ds v vs t ts hd =>
    rw [List.mapM_cons, readDirection, hd]
    rfl
  | case2 d ds v vs t ts direction hd ih =>
    rw [List.mapM_cons, readDirection, hd, ih (Nat.succ.inj hv) (Nat.succ.inj ht)]
    cases ds.mapM (readDirection point) <;> rfl
  | case3 ds vs ts hne =>
    obtain ⟨rfl, rfl, rfl⟩ := eq_nil_of_length_eq hv ht hne
    rfl

theorem Cell.requiredAll_value {α : Type} (column : String) (xs : List α) :
    (Cell.value (xs.map some)).requiredAll column = .ok xs := by
  have hall : (xs.map some).mapM id = some xs := by
    induction xs with
    | nil => rfl
    | cons x xs ih => simp [ih]
  simp only [requiredAll, required, bind, Except.bind, hall]

namespace EventLists

theorem toSignal_row (l : EventLists) (point : ContactPoint) :
    l.row.toSignal point = (l.signal point).mapError .decode := by
  unfold EventRow.toSignal row
  simp only [Cell.requiredAll_value]
  rfl

variable {l : EventLists} {point : ContactPoint}

theorem signal_of_not_aligned (h : ¬l.Aligned) :
    l.signal point = .error (.misaligned point l.counterparty l.directions.length l.values.length
      l.times.length) := if_neg h

theorem signal_of_aligned (h : l.Aligned) :
    l.signal point = (l.directions.mapM (readDirection point)).map fun directions =>
      Signal.ofEvents point l.counterparty (eventsOf directions l.values l.times) := by
  calc
    l.signal point = (eventsOfLists point l.directions l.values l.times).map
        (Signal.ofEvents point l.counterparty) := if_pos h
    _ = _ := by
      rw [eventsOfLists_eq h.1 h.2]
      cases l.directions.mapM (readDirection point) <;> rfl

theorem signal_eq_ok_iff {s : Signal} :
    l.signal point = .ok s ↔ l.Aligned ∧ ∃ ds, l.directions.mapM (readDirection point) = .ok ds ∧
      Signal.ofEvents point l.counterparty (eventsOf ds l.values l.times) = s := by
  by_cases h : l.Aligned
  · rw [signal_of_aligned h, map_eq_ok_iff, and_iff_right h]
  · simp [signal_of_not_aligned h, h]

theorem shows_of_signal {s : Signal} (h : l.signal point = .ok s) : l.Shows point s := by
  obtain ⟨ha, ds, hds, rfl⟩ := signal_eq_ok_iff.mp h
  have hread := mapM_eq_ok_iff.mp hds
  have hlength := hread.length_eq
  obtain ⟨hdirections, hvalues, htimes⟩ :=
    parts_eventsOf (hlength.symm.trans ha.1) (hlength.symm.trans ha.2)
  refine ⟨rfl, rfl, ?_, hvalues, htimes⟩
  change List.Forall₂ _ l.directions ((eventsOf ds l.values l.times).map Event.direction)
  rw [hdirections]
  exact hread.imp fun _ _ => readDirection_eq_ok_iff.mp

/-- The first direction of an aligned row that is not one is its fault. -/
theorem signal_eq_error_iff (ha : l.Aligned) {f : RowFault} :
    l.signal point = .error f ↔
      ∃ front text back, l.directions = front ++ text :: back ∧
        (∀ t ∈ front, ∃ d : Direction, t ∈ d.spellings) ∧
          (∀ d : Direction, text ∉ d.spellings) ∧ f = .unknownDirection point text := by
  have hmap : l.signal point = .error f ↔ l.directions.mapM (readDirection point) = .error f := by
    rw [signal_of_aligned ha]
    cases l.directions.mapM (readDirection point) <;> simp [Except.map]
  simp only [hmap, mapM_eq_error_iff, readDirection_eq_ok_iff, readDirection_eq_error_iff]

/-- A row is a signal if its lists are of one length and all of its directions are known. -/
theorem exists_signal_iff : (∃ s, l.signal point = .ok s) ↔ l.Aligned ∧ l.Directed := by
  have hdirected : (∃ ds, l.directions.mapM (readDirection point) = .ok ds) ↔ l.Directed := by
    rw [exists_mapM_eq_ok_iff]
    simp only [readDirection_eq_ok_iff, Directed]
  rw [← hdirected]
  simp only [signal_eq_ok_iff]
  constructor
  · rintro ⟨_, ha, ds, hds, -⟩
    exact ⟨ha, ds, hds⟩
  · rintro ⟨ha, ds, hds⟩
    exact ⟨_, ha, ds, hds, rfl⟩

end EventLists

variable {db : Pool} {point : ContactPoint} {subject : String} {filter : Filter}
  {rows : List EventLists}

theorem fetch_of_rows
    (h : db.database.events point subject filter.allowList? = .ok (rows.map EventLists.row)) :
    (db.source point).fetch subject filter =
      .after 0 (rows.mapM fun l => (l.signal point).mapError .decode) := by
  have hrow (l : EventLists) :
      EventRow.toSignal point l.row = (l.signal point).mapError .decode := l.toSignal_row point
  rw [Pool.fetch_source, h]
  change Reply.after 0 (EventRow.toSignals point _) = _
  simp only [EventRow.toSignals, List.mapM_map, Function.comp_def, hrow]

theorem fetch_eq_signals_iff
    (h : db.database.events point subject filter.allowList? = .ok (rows.map EventLists.row))
    {signals : List Signal} :
    (db.source point).fetch subject filter = .after 0 (.ok signals) ↔
      List.Forall₂ (fun l s => l.signal point = .ok s) rows signals := by
  rw [fetch_of_rows h, Reply.after.injEq, mapM_eq_ok_iff]
  simp only [true_and, mapError_eq_ok_iff]

theorem exists_fetch_eq_signals_iff
    (h : db.database.events point subject filter.allowList? = .ok (rows.map EventLists.row)) :
    (∃ signals, (db.source point).fetch subject filter = .after 0 (.ok signals)) ↔
      ∀ l ∈ rows, ∃ s, l.signal point = .ok s := by
  simp only [fetch_of_rows h, Reply.after.injEq, true_and, exists_mapM_eq_ok_iff,
    mapError_eq_ok_iff]

theorem fetch_eq_error_iff
    (h : db.database.events point subject filter.allowList? = .ok (rows.map EventLists.row))
    {e : SourceError} :
    (db.source point).fetch subject filter = .after 0 (.error e) ↔
      ∃ front l back, rows = front ++ l :: back ∧ (∀ k ∈ front, ∃ s, k.signal point = .ok s) ∧
        ∃ f, l.signal point = .error f ∧ e = .decode f := by
  rw [fetch_of_rows h, Reply.after.injEq, mapM_eq_error_iff]
  simp only [true_and, mapError_eq_ok_iff, mapError_eq_error_iff]

/-- A row whose columns have their types is a signal with aligned events if its lists are of one
length and its directions are known; different lengths are refused before any direction, and of
directions the first that is unknown. A source answers with the signals of its rows in their order,
or with the error of the first row that is none. -/
theorem decodes_rows (point : ContactPoint) :
    (∀ l : EventLists,
      l.row.toSignal point = (l.signal point).mapError .decode ∧
      ((∃ s, l.signal point = .ok s) ↔ l.Aligned ∧ l.Directed) ∧
      (∀ s, l.signal point = .ok s → l.Shows point s) ∧
      (¬l.Aligned → l.signal point = .error (.misaligned point l.counterparty l.directions.length
        l.values.length l.times.length)) ∧
      (l.Aligned → ∀ f, l.signal point = .error f ↔
        ∃ front text back, l.directions = front ++ text :: back ∧
          (∀ t ∈ front, ∃ d : Direction, t ∈ d.spellings) ∧
          (∀ d : Direction, text ∉ d.spellings) ∧ f = .unknownDirection point text)) ∧
    ∀ (db : Pool) (subject : String) (filter : Filter) (rows : List EventLists),
      db.database.events point subject filter.allowList? = .ok (rows.map EventLists.row) →
      let answer := (db.source point).fetch subject filter
      ((∃ signals, answer = .after 0 (.ok signals)) ↔ ∀ l ∈ rows, ∃ s, l.signal point = .ok s) ∧
      (∀ signals, answer = .after 0 (.ok signals) ↔
        List.Forall₂ (fun l s => l.signal point = .ok s) rows signals) ∧
      ∀ e, answer = .after 0 (.error e) ↔
        ∃ front l back, rows = front ++ l :: back ∧ (∀ k ∈ front, ∃ s, k.signal point = .ok s) ∧
          ∃ f, l.signal point = .error f ∧ e = .decode f := by
  constructor
  · intro l
    exact ⟨l.toSignal_row point, EventLists.exists_signal_iff, fun s => EventLists.shows_of_signal,
      EventLists.signal_of_not_aligned, fun ha f => EventLists.signal_eq_error_iff ha⟩
  · intro db subject filter rows h answer
    exact ⟨exists_fetch_eq_signals_iff h, fun signals => fetch_eq_signals_iff h,
      fun e => fetch_eq_error_iff h⟩

/-- A row with a null value, one whose lists differ in length and hold an unknown direction, and one
with an unknown direction only: the second is the error of the source, with its three lengths. -/
theorem decodes_rows_misaligned :
    let good : EventLists := ⟨"0xDEF", ["Out", "in"], [some "50", none], ["1000", "never"]⟩
    let uneven : EventLists := ⟨"0x1", ["Sideways"], [], ["1000"]⟩
    let unknown : EventLists := ⟨"0x2", ["In", "IN"], [none, none], ["1", "2"]⟩
    let db : Pool := ⟨.index,
      ⟨fun _ _ _ => .ok ([good, uneven, unknown].map EventLists.row), fun _ => .ok [], .ok ()⟩⟩
    db.database.events .crcTrust "0xabc" none = .ok ([good, uneven, unknown].map EventLists.row) ∧
    good.Aligned ∧ ¬uneven.Aligned ∧ unknown.Aligned ∧
    good.signal .crcTrust =
      .ok (.ofEvents .crcTrust "0xdef" [⟨.outward, "50", ⟨1000⟩⟩, ⟨.inward, "", ⟨0⟩⟩]) ∧
    unknown.signal .crcTrust = .error (.unknownDirection .crcTrust "IN") ∧
    (db.source .crcTrust).fetch "0xabc" .unrestricted =
      .after 0 (.error (.decode (.misaligned .crcTrust "0x1" 1 0 1))) := by
  intro good uneven unknown db
  have hrows : db.database.events .crcTrust "0xabc" none =
      .ok ([good, uneven, unknown].map EventLists.row) := rfl
  have hgood : good.signal .crcTrust =
      .ok (.ofEvents .crcTrust "0xdef" [⟨.outward, "50", ⟨1000⟩⟩, ⟨.inward, "", ⟨0⟩⟩]) := by
    decide
  have huneven : ¬uneven.Aligned := fun h => absurd h.1 (by decide)
  have hunknown : unknown.Aligned := ⟨rfl, rfl⟩
  obtain ⟨hdecode, hfetch⟩ := decodes_rows .crcTrust
  refine ⟨hrows, ⟨rfl, rfl⟩, huneven, hunknown, hgood, ?_, ?_⟩
  · refine ((hdecode unknown).2.2.2.2 hunknown _).mpr ⟨["In"], "IN", [], rfl, ?_, ?_, rfl⟩
    · exact List.forall_mem_singleton.mpr ⟨.inward, by decide⟩
    · intro d
      cases d <;> decide
  · refine ((hfetch db "0xabc" .unrestricted _ hrows).2.2 _).mpr
      ⟨[good], uneven, [unknown], rfl, ?_, _, (hdecode uneven).2.2.2.1 huneven, rfl⟩
    exact List.forall_mem_singleton.mpr ⟨_, hgood⟩

end Database
end ContactHistory
