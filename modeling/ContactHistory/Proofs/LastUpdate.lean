import ContactHistory.Proofs.DatabaseRuns
import ContactHistory.Proofs.PayloadIdentity

namespace ContactHistory

open Payload

/-- Signals that hold no time before the epoch count with none. -/
theorem Instant.Latest.epoch_le {signals : List Signal}
    (hs : ∀ s ∈ signals, ∀ t ∈ s.times, .epoch ≤ t) {t : Instant}
    (ht : t.Latest (signals.map Signal.time)) : .epoch ≤ t := by
  obtain ⟨s, hmem, rfl⟩ := List.mem_map.mp ht.1
  exact Signal.epoch_le_time (hs s hmem)

theorem History.lastUpdatedAt_text_of_none {h : History} (hw : h.watermark = none) :
    (HistoryRecord.ofHistory h).lastUpdatedAt = "-1" := by
  have htext : Text.Decimal.ofInt64 History.noWatermark = "-1" := by decide
  rw [← htext, HistoryRecord.ofHistory, lastUpdatedAt, hw]

theorem History.lastUpdatedAt_text_of_some {h : History} {t : Instant} (hw : h.watermark = some t) :
    (HistoryRecord.ofHistory h).lastUpdatedAt = t.text := by
  rw [HistoryRecord.ofHistory, lastUpdatedAt, hw, Instant.text]

theorem Instant.text_ne_of_epoch_le {t : Instant} (ht : epoch ≤ t) : t.text ≠ "-1" := by
  intro he
  have hbefore : t = ⟨-1⟩ := Instant.text_inj (he.trans (by decide))
  rw [hbefore] at ht
  exact absurd ht (by decide)

namespace Databases

variable {d : Databases} {subject : String} {selection : Selection} {filter : Filter}
  {now : Instant} {h : History}

theorem Reads.epoch_le {signals : List Signal} (hreads : d.Reads subject selection filter signals) :
    ∀ s ∈ signals, ∀ t ∈ s.times, .epoch ≤ t := by
  intro s hs
  obtain ⟨_, -, _, -, hrs⟩ := hreads.only s hs
  exact (Database.EventRow.toSignal_spec hrs).2

theorem watermark_eq_none_iff {batches : List (List Signal)}
    (hreads : d.Reads subject selection filter batches.flatten)
    (hr : (d.aggregator.conclude filter now batches).outcome = .loaded h) :
    h.watermark = none ↔ ¬d.Mentions subject selection filter := by
  have hholds := Roster.holds_extend_empty filter batches.flatten
  rw [← hreads.filter_eq_nil_iff, ← hholds.watermark_eq_none_iff]
  rcases Aggregator.conclude_cases hr with ⟨-, -, rfl⟩ | ⟨⟨-, he⟩, -, table, -, rfl⟩
  · rfl
  · have hnil : (Aggregator.gather filter batches).watermark = none :=
      hholds.watermark_eq_none_iff.mpr (hholds.isEmpty_iff.mp he)
    exact iff_of_true rfl hnil

/-- With an allowed row, the update of a history is the latest time of its contacts, which is not
before the epoch. -/
theorem watermark_latest {batches : List (List Signal)}
    (hreads : d.Reads subject selection filter batches.flatten)
    (hr : (d.aggregator.conclude filter now batches).outcome = .loaded h)
    (hm : d.Mentions subject selection filter) :
    ∃ t, h.watermark = some t ∧ t.Latest (h.contacts.map Contact.lastAt) ∧ .epoch ≤ t := by
  have hholds := Roster.holds_extend_empty filter batches.flatten
  have hkept : (batches.flatten.filter fun s => filter.allows s.counterparty) ≠ [] :=
    fun hnil => hreads.filter_eq_nil_iff.mp hnil hm
  rcases Aggregator.conclude_cases hr with ⟨-, -, rfl⟩ | ⟨⟨-, he⟩, -, -⟩
  · obtain ⟨t, ht, hlatest⟩ := hholds.watermark_latest hkept
    have hmax : t.Latest ((batches.flatten.filter fun s =>
        filter.allows s.counterparty).map Signal.time) := by
      rw [← Instant.max?_eq_some_iff, ← hholds.watermark, ht]
    refine ⟨t, ht, hlatest, hmax.epoch_le fun s hs => ?_⟩
    exact hreads.epoch_le s (List.mem_filter.mp hs).1
  · exact absurd (hholds.isEmpty_iff.mp he) hkept

/-- The allowed signals of a list are those of its contacts without a profile. -/
theorem mem_signals_iff {batches : List (List Signal)}
    (hr : (d.aggregator.conclude filter now batches).outcome = .loaded h) {s : Signal} :
    (∃ c ∈ h.contacts, c.profile = none ∧ s ∈ c.signals) ↔
      s ∈ batches.flatten.filter fun s => filter.allows s.counterparty := by
  have hholds := Roster.holds_extend_empty filter batches.flatten
  rcases Aggregator.conclude_cases hr with ⟨-, -, rfl⟩ | ⟨⟨-, he⟩, -, table, -, rfl⟩
  · have hgrouped := hholds.contacts.1
    constructor
    · rintro ⟨c, hc, -, hs⟩
      rw [hgrouped.signals c hc] at hs
      exact (List.mem_filter.mp hs).1
    · intro hs
      obtain ⟨c, hc, hcs⟩ := List.mem_map.mp
        ((hgrouped.counterparties s.counterparty).mpr (List.mem_map_of_mem hs))
      refine ⟨c, hc, hgrouped.profile c hc, ?_⟩
      rw [hgrouped.signals c hc]
      exact List.mem_filter.mpr ⟨hs, by simp [hcs]⟩
  · rw [hholds.isEmpty_iff.mp he]
    constructor
    · rintro ⟨c, hc, hnone, -⟩
      obtain ⟨p, rfl⟩ := (Aggregator.ofProfiles_backfill table filter now).contacts c hc
      cases hnone
    · intro hs
      cases hs

/-- Over databases a loaded history is gathered from the rows that name an allowed counterparty, and
no row gives a time before the epoch. The history shows -1 if and only if no row that came back
names an allowed counterparty, and else the latest time of its contacts. -/
theorem lastUpdatedAt_eq_neg_one_iff (d : Databases) (subject : String) (selection : Selection)
    (filter : Filter) (now : Instant) (h : History)
    (hr : (d.aggregator.run subject selection filter now).outcome = .loaded h) :
    let record := HistoryRecord.ofHistory h
    (∀ point ∈ selection.points, ∀ row, d.Returns subject filter point row →
      ∃ s, row.toSignal point = .ok s ∧ row.Names s.counterparty ∧ ∀ t ∈ s.times, .epoch ≤ t) ∧
    (∀ s, (∃ c ∈ h.contacts, c.profile = none ∧ s ∈ c.signals) ↔
      filter.allows s.counterparty = true ∧ ∃ point ∈ selection.points, ∃ row,
        d.Returns subject filter point row ∧ row.toSignal point = .ok s) ∧
    (∀ c ∈ h.contacts, c.profile = none → ∀ s ∈ c.signals, ∀ t ∈ s.times, .epoch ≤ t) ∧
    (record.lastUpdatedAt = "-1" ↔ ¬d.Mentions subject selection filter) ∧
    (d.Mentions subject selection filter → ∃ t : Instant, record.lastUpdatedAt = t.text ∧
      t.Latest (h.contacts.map Contact.lastAt) ∧ .epoch ≤ t) := by
  intro record
  obtain ⟨batches, hreads, hconclude, -⟩ := exists_reads_of_loaded hr
  have hfolded (s : Signal) : (∃ c ∈ h.contacts, c.profile = none ∧ s ∈ c.signals) ↔
      s ∈ batches.flatten ∧ filter.allows s.counterparty = true := by
    rw [mem_signals_iff hconclude, List.mem_filter]
  have hlatest (hm : d.Mentions subject selection filter) :
      ∃ t : Instant, record.lastUpdatedAt = t.text ∧ t.Latest (h.contacts.map Contact.lastAt) ∧
        .epoch ≤ t := by
    obtain ⟨t, ht, hrest⟩ := watermark_latest hreads hconclude hm
    exact ⟨t, History.lastUpdatedAt_text_of_some ht, hrest⟩
  refine ⟨fun point hpoint row hrow => ?_, fun s => ?_, fun c hc hnone s hs => ?_,
    ⟨fun he hm => ?_, fun hm => ?_⟩, hlatest⟩
  · obtain ⟨s, -, hrs⟩ := hreads.rows point hpoint row hrow
    exact ⟨s, hrs, Database.EventRow.toSignal_spec hrs⟩
  · rw [hfolded, and_comm]
    refine and_congr_right fun _ => ⟨hreads.only s, ?_⟩
    rintro ⟨point, hpoint, row, hrow, hrs⟩
    obtain ⟨u, hu, hru⟩ := hreads.rows point hpoint row hrow
    cases hrs.symm.trans hru
    exact hu
  · exact hreads.epoch_le s ((hfolded s).mp ⟨c, hc, hnone, hs⟩).1
  · obtain ⟨t, ht, -, hepoch⟩ := hlatest hm
    exact Instant.text_ne_of_epoch_le hepoch (ht.symm.trans he)
  · exact History.lastUpdatedAt_text_of_none ((watermark_eq_none_iff hreads hconclude).mpr hm)

/-- The row of an allowed counterparty has the time -1, which counts as the epoch, and a later row
is not allowed: the history shows 0. Under a filter that allows neither row it shows -1. -/
theorem lastUpdatedAt_eq_neg_one_iff_clamped :
    let sent : Database.EventRow :=
      ⟨.value " 0xDEF", .value [some "Out"], .value [none], .value [some "-1"]⟩
    let got : Database.EventRow :=
      ⟨.value "0x123", .value [some "In"], .value [some "70"], .value [some "9000"]⟩
    let db : Database :=
      ⟨fun p _ _ => .ok (if p = .crcTrust then [sent, got] else []), fun _ => .ok [], .ok ()⟩
    let d : Databases := ⟨db, none⟩
    let filter := Filter.ofAddresses ["0xDEF"]
    let other := Filter.ofAddresses ["0x456"]
    let h : History := ⟨some .epoch,
      [⟨"0xdef", [.ofEvents .crcTrust "0xdef" [⟨.outward, "", .epoch⟩]], .epoch, none⟩]⟩
    (d.aggregator.run "0xabc" .all filter ⟨99⟩).outcome = .loaded h ∧
    (d.aggregator.run "0xabc" .all other ⟨99⟩).outcome = .loaded ⟨none, []⟩ ∧
    d.Mentions "0xabc" .all filter ∧ (HistoryRecord.ofHistory h).lastUpdatedAt = "0" ∧
    ¬d.Mentions "0xabc" .all other ∧ (HistoryRecord.ofHistory ⟨none, []⟩).lastUpdatedAt = "-1" := by
  intro sent got db d filter other h
  have hr : (d.aggregator.run "0xabc" .all filter ⟨99⟩).outcome = .loaded h := by decide +kernel
  have hr' : (d.aggregator.run "0xabc" .all other ⟨99⟩).outcome = .loaded ⟨none, []⟩ := by
    decide +kernel
  have hm : d.Mentions "0xabc" .all filter :=
    ⟨.crcTrust, by decide, sent, ⟨[sent, got], rfl, by decide⟩, "0xdef", ⟨" 0xDEF", rfl, by decide⟩,
      by decide⟩
  obtain ⟨t, ht, hlatest, -⟩ :=
    (lastUpdatedAt_eq_neg_one_iff d "0xabc" .all filter ⟨99⟩ h hr).2.2.2.2 hm
  have hepoch : t = .epoch := List.mem_singleton.mp hlatest.1
  have hshown := (lastUpdatedAt_eq_neg_one_iff d "0xabc" .all other ⟨99⟩ _ hr').2.2.2.1
  refine ⟨hr, hr', hm, ?_, hshown.mp rfl, rfl⟩
  rw [ht, hepoch]
  decide

end Databases
end ContactHistory
