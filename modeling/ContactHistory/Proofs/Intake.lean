import ContactHistory.Proofs.Grouping

namespace ContactHistory

/-- A way in which signals reach a roster. -/
inductive Intake where
  | push (s : Signal)
  | extend (ss : List Signal)

def Intake.signals : Intake → List Signal
  | push s => [s]
  | extend ss => ss

namespace Roster

def receive (r : Roster) : Intake → Roster
  | .push s => r.push s
  | .extend ss => r.extend ss

/-- What a roster under a filter is after it has taken the signals of a list. -/
structure Holds (f : Filter) (kept : List Signal) (r : Roster) : Prop where
  filter : r.filter = f
  grouped : Grouped kept r.entries
  watermark : r.watermark = (kept.map Signal.time).max?

theorem push_of_not_allowed {r : Roster} {s : Signal}
    (h : r.filter.allows s.counterparty = false) : r.push s = r := by
  rw [push, h]
  rfl

theorem max?_append_singleton (ts : List Instant) (u : Instant) :
    (ts ++ [u]).max? = some (match ts.max? with
      | none => u
      | some t => max t u) := by
  cases ts with
  | nil => rfl
  | cons t ts => simp only [List.cons_append, List.max?_cons', List.foldl_append, List.foldl_cons,
      List.foldl_nil]

theorem holds_empty (f : Filter) : Holds f [] (empty f) := ⟨rfl, grouped_nil, rfl⟩

theorem Holds.push {f : Filter} {kept : List Signal} {r : Roster} (h : Holds f kept r)
    (s : Signal) :
    Holds f (kept ++ [s].filter fun s => f.allows s.counterparty) (r.push s) := by
  cases ha : f.allows s.counterparty with
  | false =>
    rw [push_of_not_allowed (by rw [h.filter, ha])]
    simpa [ha] using h
  | true =>
    have hr : r.filter.allows s.counterparty = true := by rw [h.filter, ha]
    have hs : ([s].filter fun s => f.allows s.counterparty) = [s] := by simp [ha]
    rw [Roster.push, if_pos hr, hs]
    have hmax := max?_append_singleton (kept.map Signal.time) s.time
    rw [← h.watermark, ← List.map_singleton, ← List.map_append] at hmax
    exact ⟨h.filter, h.grouped.place s, hmax.symm⟩

theorem extend_cons (r : Roster) (s : Signal) (ss : List Signal) :
    r.extend (s :: ss) = (r.push s).extend ss := rfl

theorem extend_append (r : Roster) (ss us : List Signal) :
    r.extend (ss ++ us) = (r.extend ss).extend us := List.foldl_append

theorem Holds.extend {f : Filter} {kept : List Signal} {r : Roster} (h : Holds f kept r)
    (ss : List Signal) :
    Holds f (kept ++ ss.filter fun s => f.allows s.counterparty) (r.extend ss) := by
  induction ss generalizing kept r with
  | nil => simpa [Roster.extend] using h
  | cons s ss ih =>
    have hs := ih (h.push s)
    rw [List.append_assoc, ← List.filter_append] at hs
    exact hs

/-- The roster of some signals holds those that its filter allows. -/
theorem holds_extend_empty (f : Filter) (ss : List Signal) :
    Holds f (ss.filter fun s => f.allows s.counterparty) ((empty f).extend ss) := by
  simpa using (holds_empty f).extend ss

theorem filter_push (r : Roster) (s : Signal) : (r.push s).filter = r.filter := by
  unfold push
  split <;> rfl

theorem extend_filter (r : Roster) (ss : List Signal) :
    r.extend (ss.filter fun s => r.filter.allows s.counterparty) = r.extend ss := by
  induction ss generalizing r with
  | nil => rfl
  | cons s ss ih =>
    have hs := ih (r.push s)
    rw [filter_push] at hs
    rw [extend_cons, ← hs]
    cases ha : r.filter.allows s.counterparty with
    | true => simp [ha, extend_cons]
    | false => simp [ha, push_of_not_allowed]

theorem foldl_receive (r : Roster) (is : List Intake) :
    is.foldl receive r = r.extend (is.flatMap Intake.signals) := by
  induction is generalizing r with
  | nil => rfl
  | cons i is ih =>
    have hi : r.receive i = r.extend i.signals := by cases i <;> rfl
    rw [List.foldl_cons, ih, hi, List.flatMap_cons, extend_append]

theorem Holds.contacts {f : Filter} {kept : List Signal} {r : Roster} (h : Holds f kept r) :
    Grouped kept r.contacts ∧ r.contacts.Pairwise Contact.Precedes :=
  ⟨h.grouped.perm (Contact.perm_sorted _).symm,
    Contact.pairwise_precedes_sorted h.grouped.nodup⟩

theorem Holds.isEmpty_iff {f : Filter} {kept : List Signal} {r : Roster} (h : Holds f kept r) :
    r.isEmpty = true ↔ kept = [] := by
  rw [isEmpty, List.isEmpty_iff, h.grouped.eq_nil_iff]

theorem Holds.watermark_eq_none_iff {f : Filter} {kept : List Signal} {r : Roster}
    (h : Holds f kept r) : r.watermark = none ↔ kept = [] := by
  rw [h.watermark, List.max?_eq_none_iff, List.map_eq_nil_iff]

theorem Holds.watermark_latest {f : Filter} {kept : List Signal} {r : Roster} (h : Holds f kept r)
    (hk : kept ≠ []) : ∃ t, r.watermark = some t ∧ t.Latest (r.contacts.map Contact.lastAt) := by
  obtain ⟨t, ht⟩ := Option.ne_none_iff_exists'.mp fun hn => hk (h.watermark_eq_none_iff.mp hn)
  refine ⟨t, ht, h.contacts.1.latest_lastAt ?_⟩
  rw [← Instant.max?_eq_some_iff, ← h.watermark, ht]

/-- The contacts are the same in whichever order the entries are listed. -/
theorem Holds.sorted_eq_of_perm {f : Filter} {kept : List Signal} {r : Roster}
    (h : Holds f kept r) {es : List Contact} (hp : es.Perm r.entries) :
    Contact.sorted es = r.contacts := by
  have hg : Grouped kept es := h.grouped.perm hp.symm
  exact (hg.perm (Contact.perm_sorted es).symm).unique h.contacts.1
    (Contact.pairwise_precedes_sorted hg.nodup) h.contacts.2

/-- A roster groups the allowed signals that reach it, lists the contacts in strict order, and has
the latest time as its watermark; neither signals that are not allowed nor the manner in which the
others came make a difference. -/
theorem groups_allowed_signals (f : Filter) (is : List Intake) :
    let r := is.foldl receive (empty f)
    let kept := (is.flatMap Intake.signals).filter fun s => f.allows s.counterparty
    (r.watermark = none ↔ kept = []) ∧
    (r.isEmpty = true ↔ kept = []) ∧
    (∀ t, r.watermark = some t → t.Latest (kept.map Signal.time)) ∧
    (∀ s : Signal,
      (s.times = [] → s.time = .epoch) ∧ (s.times ≠ [] → s.time.Latest s.times)) ∧
    Grouped kept r.contacts ∧
    r.contacts.Pairwise Contact.Precedes ∧
    (∀ es : List Contact, es.Perm r.entries → Contact.sorted es = r.contacts) ∧
    (∀ s : Signal, f.allows s.counterparty = false → r.push s = r) ∧
    (∀ js : List Intake, js.flatMap Intake.signals = is.flatMap Intake.signals →
      js.foldl receive (empty f) = r) := by
  intro r kept
  have h : Holds f kept r := by
    rw [show r = _ from foldl_receive _ _]
    exact holds_extend_empty f _
  refine ⟨h.watermark_eq_none_iff, h.isEmpty_iff, ?_, Signal.time_eq, h.contacts.1, h.contacts.2,
    fun es hp => h.sorted_eq_of_perm hp, ?_, ?_⟩
  · intro t ht
    rw [h.watermark] at ht
    exact Instant.max?_eq_some_iff.mp ht
  · intro s hs
    exact push_of_not_allowed (by rw [h.filter, hs])
  · intro js hj
    rw [foldl_receive, hj]
    exact (foldl_receive _ _).symm

end Roster

namespace Contact

/-- Sorting keeps all contacts, puts them in order and leaves those that tie as they were. Where no
two have one counterparty, the order in which they come cannot be seen in the result; so it is with
the entries of every roster. -/
theorem sorted_stable (cs : List Contact) :
    (sorted cs).Perm cs ∧
    (sorted cs).Pairwise (fun a b => Precedes a b ∨ Ties a b) ∧
    (∀ c, ((sorted cs).filter fun d => Ties c d) = cs.filter fun d => Ties c d) ∧
    ((cs.map counterparty).Nodup → ∀ ds, ds.Perm cs → sorted ds = sorted cs) ∧
    ∀ (f : Filter) (is : List Intake),
      let r := is.foldl Roster.receive (.empty f)
      cs.Perm r.entries → sorted cs = r.contacts := by
  refine ⟨perm_sorted cs, pairwise_sorted cs, fun c => filter_ties_sorted c cs,
    fun hn ds hp => sorted_eq_of_perm hn hp, ?_⟩
  intro f is r hp
  have hholds := Roster.holds_extend_empty f (is.flatMap Intake.signals)
  rw [← Roster.foldl_receive] at hholds
  exact hholds.sorted_eq_of_perm hp

/-- At both ends of the range of times: of two contacts that tie, the first stays in front; and a
roster that took the later signal first is sorted as if it had taken it last. -/
theorem sorted_stable_extremes :
    let first : Contact := ⟨"0xb", [], ⟨Int64.minValue⟩, none⟩
    let late : Contact := ⟨"0xa", [], ⟨Int64.maxValue⟩, none⟩
    let second : Contact := ⟨"0xb", [.found "0xb" .epoch], ⟨Int64.minValue⟩, none⟩
    let trust := Signal.ofEvents .crcTrust "0xA" [⟨.outward, "50", ⟨7⟩⟩]
    let chat := Signal.ofEvents .chatMessage "0xé" [⟨.inward, "hello", ⟨7⟩⟩]
    let r := [Intake.push chat, .extend [trust]].foldl Roster.receive (.empty .unrestricted)
    let entries := [ofSignal trust, ofSignal chat]
    ((sorted [first, late, second]).filter fun d => Ties first d) = [first, second] ∧
    ([first, late].map counterparty).Nodup ∧ [late, first].Perm [first, late] ∧
    sorted [late, first] = sorted [first, late] ∧ sorted [late, first] = [late, first] ∧
    entries.Perm r.entries ∧ entries ≠ r.entries ∧ r.contacts = entries := by
  intro first late second trust chat r entries
  have hnodup : ([first, late].map counterparty).Nodup := by decide
  have hswap : [late, first].Perm [first, late] := by decide
  have hperm : entries.Perm r.entries := by decide
  have hstable := (sorted_stable [first, late, second]).2.2.1 first
  have hsame := (sorted_stable [first, late]).2.2.2.1 hnodup [late, first] hswap
  have hroster := (sorted_stable entries).2.2.2.2 .unrestricted [.push chat, .extend [trust]] hperm
  have hentries : sorted entries = entries := List.mergeSort_of_pairwise (by decide)
  exact ⟨hstable.trans (by decide), hnodup, hswap, hsame, List.mergeSort_of_pairwise (by decide),
    hperm, by decide, hroster.symm.trans hentries⟩

end Contact
end ContactHistory
