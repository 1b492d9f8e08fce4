import ContactHistory.Proofs.LoadedHistory
import ContactHistory.Proofs.PayloadRoundTrip

namespace ContactHistory

open Json

/-- Lists are equal if their images are, and no two of their members share an image. -/
theorem eq_of_map_eq {α β : Type} {f : α → β} {xs ys : List α}
    (hf : ∀ x ∈ xs, ∀ y ∈ ys, f x = f y → x = y) (h : xs.map f = ys.map f) : xs = ys := by
  induction xs generalizing ys with
  | nil => exact (List.map_eq_nil_iff.mp h.symm).symm
  | cons x xs ih =>
    cases ys with
    | nil => cases h
    | cons y ys =>
      obtain ⟨hhead, htail⟩ := List.cons.inj h
      have hxy : x = y := hf x List.mem_cons_self y List.mem_cons_self hhead
      have hrest : xs = ys := ih
        (fun u hu v hv => hf u (List.mem_cons_of_mem x hu) v (List.mem_cons_of_mem y hv)) htail
      rw [hxy, hrest]

/-! ### Names and numerals -/

/-- A numeral is that of one number only, since it is read back. -/
theorem Text.Decimal.ofInt64_inj {m n : Int64} (h : ofInt64 m = ofInt64 n) : m = n := by
  have hchars : ofInt m.toInt = ofInt n.toInt := String.ofList_injective h
  have hend : Reader.EndsNumber [] := by simp [Reader.EndsNumber]
  have hm := Reader.int64_ofInt m hend
  have hn := Reader.int64_ofInt n hend
  rw [hchars, hn] at hm
  cases hm
  rfl

theorem Instant.text_inj {t u : Instant} (h : t.text = u.text) : t = u :=
  Instant.ext (Text.Decimal.ofInt64_inj h)

theorem ContactPoint.name_inj {p q : ContactPoint} (h : p.name = q.name) : p = q := by
  have hread (r : ContactPoint) : ofName? r.name = some r := by cases r <;> decide
  have hp := hread p
  rw [h, hread q] at hp
  exact (Option.some.inj hp).symm

theorem Direction.name_inj {d e : Direction} (h : d.name = e.name) : d = e := by
  have hd := read?_name d
  rw [h, read?_name e] at hd
  exact (Option.some.inj hd).symm

/-! ### Signals -/

theorem Event.list_inj {es fs : List Event}
    (hd : (es.map Event.direction).map Direction.name = (fs.map Event.direction).map Direction.name)
    (hv : es.map Event.value = fs.map Event.value)
    (ht : (es.map Event.time).map Instant.text = (fs.map Event.time).map Instant.text) :
    es = fs := by
  induction es generalizing fs with
  | nil => exact (List.map_eq_nil_iff.mp hv.symm).symm
  | cons e es ih =>
    cases fs with
    | nil => cases hv
    | cons f fs =>
      obtain ⟨hd, hds⟩ := List.cons.inj hd
      obtain ⟨hv, hvs⟩ := List.cons.inj hv
      obtain ⟨ht, hts⟩ := List.cons.inj ht
      have he : e = f := Event.ext (Direction.name_inj hd) hv (Instant.text_inj ht)
      rw [he, ih hds hvs hts]

theorem Signal.eq_of_record_eq {s t : Signal} (hc : s.counterparty = t.counterparty)
    (h : Payload.PointRecord.ofSignal s = Payload.PointRecord.ofSignal t) : s = t := by
  have hname := congrArg Payload.PointRecord.name h
  have hdirections := congrArg Payload.PointRecord.directions h
  have hvalues : s.events.map Event.value = t.events.map Event.value :=
    congrArg Payload.PointRecord.values h
  have htimes := congrArg Payload.PointRecord.timestamps h
  -- There are as many values as events, so that the times in front of theirs are told apart.
  have hlength : s.events.length = t.events.length := by simpa using congrArg List.length hvalues
  simp only [Payload.PointRecord.ofSignal, times, List.map_append] at htimes
  obtain ⟨hsighting, hevents⟩ := List.append_inj' htimes (by simpa using hlength)
  have hlists : s.sighting.toList = t.sighting.toList :=
    eq_of_map_eq (fun _ _ _ _ => Instant.text_inj) hsighting
  have hsame : s.sighting = t.sighting := by simpa using congrArg List.head? hlists
  exact Signal.ext (ContactPoint.name_inj hname) hc hsame
    (Event.list_inj hdirections hvalues hevents)

/-! ### Contacts -/

/-- A contact as loaded histories have them: without a profile and with signals of its counterparty,
or made from a profile. -/
def Contact.Loaded (c : Contact) : Prop :=
  c.profile = none ∧ (∀ s ∈ c.signals, s.counterparty = c.counterparty) ∨
    ∃ p now, c = Contact.ofProfile p now

theorem Profile.eq_of_record_eq {p q : Profile}
    (h : Payload.ProfileRecord.ofProfile p = Payload.ProfileRecord.ofProfile q) : p = q := by
  cases p
  cases q
  cases h
  rfl

/-- The record of a contact that was loaded tells everything about it. -/
theorem Contact.Loaded.eq_of_record_eq {c d : Contact} (hc : c.Loaded) (hd : d.Loaded)
    (h : Payload.ContactRecord.ofContact c = Payload.ContactRecord.ofContact d) : c = d := by
  have hcounterparty : c.counterparty = d.counterparty :=
    congrArg Payload.ContactRecord.contactAddress h
  have hlast : c.lastAt = d.lastAt :=
    Instant.text_inj (congrArg Payload.ContactRecord.lastContactAt h)
  have hsignals : c.signals.map Payload.PointRecord.ofSignal =
      d.signals.map Payload.PointRecord.ofSignal := congrArg Payload.ContactRecord.metadata h
  have hprofile : c.profile.map Payload.ProfileRecord.ofProfile =
      d.profile.map Payload.ProfileRecord.ofProfile := congrArg Payload.ContactRecord.profile h
  -- Only contacts that were found show a profile, so both contacts are of one kind.
  rcases hc with ⟨hcnone, hcs⟩ | ⟨p, t, rfl⟩
  · rcases hd with ⟨hdnone, hds⟩ | ⟨q, u, rfl⟩
    · have he : c.signals = d.signals := by
        refine eq_of_map_eq (fun s hs u hu hsu => Signal.eq_of_record_eq ?_ hsu) hsignals
        rw [hcs s hs, hds u hu, hcounterparty]
      exact Contact.ext hcounterparty he hlast (hcnone.trans hdnone.symm)
    · rw [hcnone] at hprofile
      cases hprofile
  · rcases hd with ⟨hdnone, -⟩ | ⟨q, u, rfl⟩
    · rw [hdnone] at hprofile
      cases hprofile
    · have hp : p = q := Profile.eq_of_record_eq (Option.some.inj hprofile)
      have ht : t = u := hlast
      rw [hp, ht]

/-! ### Histories -/

/-- The text of a record tells all about it, since it is read back. -/
theorem Payload.HistoryRecord.eq_of_compact_eq {r r' : HistoryRecord}
    (h : r.toJson.compact = r'.toJson.compact) : r = r' := by
  have hparse := (parse_of_takes fun l => takes l r).1
  have hparse' := (parse_of_takes fun l => takes l r').1
  rw [h, hparse'] at hparse
  exact (Except.ok.inj hparse).symm

namespace Aggregator

open Payload

variable {a b : Aggregator} {subject subject' : String} {selection selection' : Selection}
  {filter filter' : Filter} {now now' : Instant} {h h' : History}

theorem loaded_of_mem (hr : (a.run subject selection filter now).outcome = .loaded h) {c : Contact}
    (hc : c ∈ h.contacts) : c.Loaded := by
  rcases kinds_of_loaded hr with hs | ⟨-, table, -, rfl⟩
  · exact .inl ⟨hs.profile c hc, (hs.signals c hc).2⟩
  · obtain ⟨p, he⟩ := (ofProfiles_backfill table filter now).contacts c hc
    exact .inr ⟨p, now, he⟩

/-- The watermark of a loaded history follows from its contacts: it is the time of the first one,
unless that one was made from a profile. -/
theorem watermark_of_loaded (hr : (a.run subject selection filter now).outcome = .loaded h) :
    h.watermark = (h.contacts.head?.filter fun c => c.profile.isNone).map Contact.lastAt := by
  rcases kinds_of_loaded hr with hs | ⟨-, table, -, rfl⟩
  · rw [hs.watermark]
    cases hcs : h.contacts with
    | nil => rfl
    | cons c cs =>
      have hnone : c.profile = none := hs.profile c (hcs ▸ List.mem_cons_self)
      simp [Option.filter, hnone]
  · cases hcs : (backfill table filter now).contacts with
    | nil => rfl
    | cons c cs =>
      obtain ⟨p, rfl⟩ := (ofProfiles_backfill table filter now).contacts c
        (hcs ▸ List.mem_cons_self)
      rfl

/-- Loaded histories are equal if their payloads are written as the same text. -/
theorem loaded_eq_of_compact_eq (a b : Aggregator) (subject subject' : String)
    (selection selection' : Selection) (filter filter' : Filter) (now now' : Instant)
    (h h' : History)
    (hr : (a.run subject selection filter now).outcome = .loaded h)
    (hr' : (b.run subject' selection' filter' now').outcome = .loaded h')
    (htext : (HistoryRecord.ofHistory h).toJson.compact =
      (HistoryRecord.ofHistory h').toJson.compact) :
    h = h' := by
  have hrecord : HistoryRecord.ofHistory h = HistoryRecord.ofHistory h' :=
    HistoryRecord.eq_of_compact_eq htext
  have hcontacts : h.contacts = h'.contacts := by
    refine eq_of_map_eq (fun c hc d hd hcd => ?_) (congrArg HistoryRecord.contacts hrecord)
    exact (loaded_of_mem hr hc).eq_of_record_eq (loaded_of_mem hr' hd) hcd
  have hwatermark : h.watermark = h'.watermark := by
    rw [watermark_of_loaded hr, watermark_of_loaded hr', hcontacts]
  exact History.ext hwatermark hcontacts

/-- An interaction just before the epoch sets the watermark to -1, the time that a history without
one shows. Another aggregator, asked at another time under a filter and in another spelling, can
only have sent the same text for the same history. -/
theorem loaded_eq_of_compact_eq_before_epoch :
    let trust : Source := ⟨.crcTrust, fun _ _ =>
      pure <| .after 2 (.ok [.ofEvents .crcTrust "0xDEF" [⟨.outward, "\"50\"", ⟨-1⟩⟩]])⟩
    let both : Source := ⟨.crcTrust, fun _ _ =>
      pure <| .after 0 (.ok [.ofEvents .crcTrust " 0xdef" [⟨.outward, "\"50\"", ⟨-1⟩⟩],
        .ofEvents .crcTrust "0x123" [⟨.inward, "70", ⟨9000⟩⟩]])⟩
    let a : Aggregator := ⟨.ofSources [trust], fun _ => pure (.ok .empty)⟩
    let b : Aggregator := ⟨.ofSources [both], fun _ => pure (.ok .empty)⟩
    let filter := Filter.ofAddresses ["0xDEF"]
    ∃ h h' : History,
      (a.run "0xabc" .all .unrestricted .epoch).outcome = .loaded h ∧
      (b.run " 0xABC" .all filter ⟨7⟩).outcome = .loaded h' ∧
      (HistoryRecord.ofHistory h).toJson.compact = (HistoryRecord.ofHistory h').toJson.compact ∧
      h.watermark = some ⟨-1⟩ ∧ h = h' := by
  intro trust both a b filter
  let h : History :=
    ⟨some ⟨-1⟩, [⟨"0xdef", [.ofEvents .crcTrust "0xDEF" [⟨.outward, "\"50\"", ⟨-1⟩⟩]], ⟨-1⟩, none⟩]⟩
  let h' : History :=
    ⟨some ⟨-1⟩,
      [⟨"0xdef", [.ofEvents .crcTrust " 0xdef" [⟨.outward, "\"50\"", ⟨-1⟩⟩]], ⟨-1⟩, none⟩]⟩
  have hr : (a.run "0xabc" .all .unrestricted .epoch).outcome = .loaded h := by decide +kernel
  have hr' : (b.run " 0xABC" .all filter ⟨7⟩).outcome = .loaded h' := by decide +kernel
  have htext : (HistoryRecord.ofHistory h).toJson.compact =
      (HistoryRecord.ofHistory h').toJson.compact := rfl
  exact ⟨h, h', hr, hr', htext, rfl, loaded_eq_of_compact_eq a b "0xabc" " 0xABC" .all .all
    .unrestricted filter .epoch ⟨7⟩ h h' hr hr' htext⟩

end Aggregator
end ContactHistory
