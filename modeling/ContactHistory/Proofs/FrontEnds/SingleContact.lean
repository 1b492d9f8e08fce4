import ContactHistory.Proofs.FilteredHistory
import ContactHistory.Proofs.FrontEnds.Gets
import ContactHistory.Proofs.PayloadIdentity

namespace ContactHistory

open Http Payload Text

namespace Filter

theorem ofAddresses_singleton {c : String} (h : Address.normalize c ≠ "") :
    (ofAddresses [c]).addresses = [Address.normalize c] := by
  have hwanted : wanted [c] = [Address.normalize c] := by simp [wanted, h]
  exact congrArg ContactHistory.ascending hwanted

/-- A text without a comma lists one address. -/
theorem ofAddresses_entries {c : String} (hcomma : ',' ∉ c.toList) :
    ofAddresses (CommaList.entries c) = ofAddresses [c] := by
  have hjoin : CommaList.join [c] = c := by simp [CommaList.join]
  have hentries : CommaList.entries (CommaList.join [c]) = CommaList.present [c] :=
    CommaList.entries_join (by simpa using hcomma)
  rw [hjoin] at hentries
  rw [hentries, ofAddresses_present]

theorem allows_singleton {c : String} (h : Address.normalize c ≠ "") {a : String} :
    (ofAddresses [c]).allows a = true ↔ a = Address.normalize c := by
  simp [allows, ofAddresses_singleton h]

end Filter

/-- A counterparty has the same contact under every filter that allows it. -/
theorem Roster.mem_contacts_extend {f : Filter} {ss : List Signal} {k : Contact} :
    k ∈ ((empty f).extend ss).contacts ↔
      k ∈ ((empty .unrestricted).extend ss).contacts ∧ f.allows k.counterparty = true := by
  rw [contacts_extend_filter, List.mem_filter]

namespace History

variable {h : History} {x : String}

/-- The history has no contacts but one of an address, if that. -/
structure Single (h : History) (x : String) : Prop where
  nodup : (h.contacts.map Contact.counterparty).Nodup
  counterparty : ∀ k ∈ h.contacts, k.counterparty = x

theorem Single.contacts_cases (hs : h.Single x) :
    h.contacts = [] ∨ ∃ k, h.contacts = [k] ∧ k.counterparty = x := by
  obtain ⟨hnodup, hsame⟩ := hs
  cases hc : h.contacts with
  | nil => exact .inl rfl
  | cons k ks =>
    rw [hc] at hnodup hsame
    cases ks with
    | nil => exact .inr ⟨k, rfl, hsame k List.mem_cons_self⟩
    | cons l ls =>
      have hk : k.counterparty = x := hsame k (by simp)
      have hl : l.counterparty = x := hsame l (by simp)
      simp [hk, hl] at hnodup

theorem Single.find?_eq (hs : h.Single x) : h.find? x = h.contacts.head? := by
  unfold find?
  rcases hs.contacts_cases with hnil | ⟨k, hone, hk⟩
  · rw [hnil]
    rfl
  · rw [hone]
    simp [hk]

theorem Single.contacts_of_mem (hs : h.Single x) {k : Contact} (hk : k ∈ h.contacts) :
    h.contacts = [k] := by
  rcases hs.contacts_cases with hnil | ⟨l, hone, -⟩
  · rw [hnil] at hk
    cases hk
  · rw [hone] at hk ⊢
    rw [List.mem_singleton.mp hk]

end History

namespace Aggregator

variable {a : Aggregator} {subject c : String} {selection : Selection} {now : Instant}
  {h : History} {lists : ContactPoint → List Signal}

theorem single_of_loaded (hkeyed : a.HasKeyedProfiles) (hc : Address.normalize c ≠ "")
    (hr : (a.run subject selection (.ofAddresses [c]) now).outcome = .loaded h) :
    h.Single (Address.normalize c) := by
  rcases kinds_of_loaded hr with hsignals | ⟨-, table, htable, rfl⟩
  · refine ⟨hsignals.nodup, fun k hk => ?_⟩
    exact (Filter.allows_singleton hc).mp (hsignals.allowed k hk)
  · have hkeys : table.KeyedByAddress := hkeyed _ table htable
    refine ⟨((Contact.perm_sorted _).map _).nodup_iff.mpr (nodup_found hkeys _ now), fun k hk => ?_⟩
    exact (Filter.allows_singleton hc).mp (counterparty_of_mem_backfill hkeys hk).1

/-- Over sources that have some signals the whole history is loaded. So is the one of a single
counterparty, with the contact that the whole history has of it, unless its profile is looked up in
vain. -/
theorem run_single (hc : Address.normalize c ≠ "")
    (ha : ∀ s ∈ a.registry.select selection,
      s.Offers (Address.normalize subject) (lists s.point)) (now : Instant) :
    let narrowed := (a.run subject selection (.ofAddresses [c]) now).outcome
    ∃ all, (a.run subject selection .unrestricted now).outcome = .loaded all ∧
      ((∃ few, narrowed = .loaded few ∧
          ∀ k ∈ all.contacts, k.counterparty = Address.normalize c → k ∈ few.contacts) ∨
        ∃ e, a.profiles [Address.normalize c] = .error e ∧ narrowed = .failed (.profiles e) ∧
          ∀ k ∈ all.contacts, k.counterparty ≠ Address.normalize c) := by
  intro narrowed
  let filter := Filter.ofAddresses [c]
  let batches := (a.registry.select selection).map fun s => lists s.point
  let all := gather .unrestricted batches
  let few := gather filter batches
  have haddresses : filter.addresses = [Address.normalize c] := Filter.ofAddresses_singleton hc
  have hwhole : (a.run subject selection .unrestricted now).outcome =
      .loaded ⟨all.watermark, all.contacts⟩ := by
    rw [(run_of_offers .unrestricted now ha).1, conclude_of_gathered now (.inr rfl)]
  have hnarrowed : narrowed = (a.conclude filter now batches).outcome :=
      (run_of_offers filter now ha).1
  have hmem (k : Contact) (hk : k ∈ all.contacts) (hx : k.counterparty = Address.normalize c) :
      k ∈ few.contacts :=
    Roster.mem_contacts_extend.mpr ⟨hk, (Filter.allows_singleton hc).mpr hx⟩
  refine ⟨⟨all.watermark, all.contacts⟩, hwhole, ?_⟩
  by_cases hempty : few.isEmpty = true
  · have hnone (k : Contact) (hk : k ∈ all.contacts) : k.counterparty ≠ Address.normalize c := by
      intro hx
      have hin := hmem k hk hx
      rw [Roster.contacts, Contact.mem_sorted, List.isEmpty_iff.mp hempty] at hin
      cases hin
    have hrestricted : filter.isRestricted = true := by simp [Filter.isRestricted, haddresses]
    rw [conclude_of_isEmpty now hempty hrestricted, haddresses] at hnarrowed
    cases hp : a.profiles [Address.normalize c] with
    | error e =>
      rw [hp] at hnarrowed
      exact .inr ⟨e, rfl, hnarrowed, hnone⟩
    | ok table =>
      rw [hp] at hnarrowed
      exact .inl ⟨_, hnarrowed, fun k hk hx => absurd hx (hnone k hk)⟩
  · rw [conclude_of_gathered now (.inl (Bool.not_eq_true _ ▸ hempty))] at hnarrowed
    exact .inl ⟨_, hnarrowed, hmem⟩

end Aggregator

namespace Http.Service

variable {s : Service} {limit : Nat} {now : Instant} {r : Request}

/-- At a time the service gives a request a response, whatever other clocks and its metrics show. -/
def Responds (s : Service) (limit : Nat) (now : Instant) (r : Request) (response : Response) :
    Prop :=
  ∀ clocks m, clocks.now = now → (s.answer clocks limit r m).response = some response

/-- The record of a response follows from what the service answers under clocks that stand still. -/
theorem Responds.record_eq {h h' : HistoryRecord}
    (hr : s.Responds limit now r (jsonResponse 200 h.toJson))
    (hanswer : (s.answer (.still now) limit r .empty).response =
      some (jsonResponse 200 h'.toJson)) : h = h' := by
  have hsame := (hr (.still now) .empty rfl).symm.trans hanswer
  exact HistoryRecord.eq_of_compact_eq (congrArg Response.body (Option.some.inj hsame))

theorem responds_of_puts {q : Question} {counterparty : Option String}
    (h : r.Puts limit q counterparty) (hblank : ¬q.IsBlank counterparty) (hget : r.method = "GET")
    {response : Response}
    (hresponse :
      let i := q.inquiryFor s.defaultSelection counterparty
      i.respond (s.aggregator.run q.subject i.selection i.filter now).outcome = some response) :
    s.Responds limit now r response := by
  rintro clocks m rfl
  have hhead : r.method ≠ "HEAD" := by
    rw [hget]
    decide
  rw [h.answer hblank s clocks m]
  simp only [hresponse, Option.map_some, Response.sentTo_of_not_head hhead]

variable {subject c : String} {sources addresses : Option String} {history : History}

/-- The sources that a field of a query asks. -/
def selectionOf (s : Service) (sources : Option String) : Selection :=
  .ofNamesOr s.defaultSelection (sources.map CommaList.entries)

theorem responds_list (hsubject : Address.normalize subject ≠ "")
    (h : r.Gets .contacts [subject] [("sources", sources), ("addresses", addresses)])
    {filter : Filter} (hfilter : .ofAddresses ((addresses.map CommaList.entries).getD []) = filter)
    {response : Response}
    (hresponse :
      (Inquiry.mk (Address.normalize subject) (s.selectionOf sources) filter none).respond
        (s.aggregator.run subject (s.selectionOf sources) filter now).outcome = some response) :
    s.Responds limit now r response := by
  refine responds_of_puts (h.puts_list limit) ?_ h.method ?_
  · rintro (hblank | hblank)
    · exact hsubject hblank
    · cases hblank
  · rw [selectionOf, Selection.ofNamesOr_getD, ← hfilter] at hresponse
    exact hresponse

theorem responds_single (hsubject : Address.normalize subject ≠ "")
    (hc : Address.normalize c ≠ "") (h : r.Gets .contact [subject, c] [("sources", sources)])
    {response : Response}
    (hresponse : (Inquiry.mk (Address.normalize subject) (s.selectionOf sources) (.ofAddresses [c])
      (some (Address.normalize c))).respond
      (s.aggregator.run subject (s.selectionOf sources) (.ofAddresses [c]) now).outcome =
        some response) :
    s.Responds limit now r response := by
  refine responds_of_puts (h.puts_single limit) ?_ h.method ?_
  · rintro (hblank | hblank)
    · exact hsubject hblank
    · exact hc (Option.some.inj hblank)
  · rw [selectionOf, Selection.ofNamesOr_getD] at hresponse
    exact hresponse

/-- A history of at most one contact is answered with that contact, or as not found. -/
theorem responds_single_of_loaded (limit : Nat) (hsubject : Address.normalize subject ≠ "")
    (hc : Address.normalize c ≠ "") (h : r.Gets .contact [subject, c] [("sources", sources)])
    (hrun : (s.aggregator.run subject (s.selectionOf sources) (.ofAddresses [c]) now).outcome =
      .loaded history) (hone : history.Single (Address.normalize c)) :
    (∀ k ∈ history.contacts,
        s.Responds limit now r (jsonResponse 200 (ContactRecord.ofContact k).toJson)) ∧
      (history.contacts = [] → s.Responds limit now r contactNotFound) := by
  have hfound := hone.find?_eq
  refine ⟨fun k hk => ?_, fun hnil => ?_⟩
  · rw [hone.contacts_of_mem hk] at hfound
    apply responds_single hsubject hc h
    simp only [hrun, Inquiry.respond, Inquiry.answerWith, hfound, List.head?_cons]
  · rw [hnil] at hfound
    apply responds_single hsubject hc h
    simp only [hrun, Inquiry.respond, Inquiry.answerWith, hfound, List.head?_nil]

/-- The list under the filter of one address has at most one contact. A request for the contact at
the address is answered with it, or as not found if there is none, and it is the one that the whole
list has, if that has one. A failed lookup of profiles fails both. -/
theorem single_agrees_with_list (s : Service) (limit : Nat) (now : Instant) (subject c : String)
    (sources : Option String) (lists : ContactPoint → List Signal)
    (hsubject : Address.normalize subject ≠ "") (hc : Address.normalize c ≠ "")
    (hcomma : ',' ∉ c.toList) (hkeyed : s.aggregator.HasKeyedProfiles)
    (hoffers : ∀ t ∈ s.aggregator.registry.select (s.selectionOf sources),
      t.Offers (Address.normalize subject) (lists t.point))
    {whole narrow single : Request}
    (hwhole : whole.Gets .contacts [subject] [("sources", sources), ("addresses", none)])
    (hnarrow : narrow.Gets .contacts [subject] [("sources", sources), ("addresses", some c)])
    (hsingle : single.Gets .contact [subject, c] [("sources", sources)]) :
    ∃ all : HistoryRecord, s.Responds limit now whole (jsonResponse 200 all.toJson) ∧
      ((∃ few : HistoryRecord, s.Responds limit now narrow (jsonResponse 200 few.toJson) ∧
          few.contacts.length ≤ 1 ∧
          (∀ entry ∈ few.contacts,
            s.Responds limit now single (jsonResponse 200 entry.toJson)) ∧
          (few.contacts = [] → s.Responds limit now single contactNotFound)) ∨
        (∃ e, s.aggregator.profiles [Address.normalize c] = .error e) ∧
          s.Responds limit now narrow aggregationFailed ∧
          s.Responds limit now single aggregationFailed) ∧
      ∀ entry ∈ all.contacts, entry.contactAddress = Address.normalize c →
        s.Responds limit now single (jsonResponse 200 entry.toJson) := by
  have hfilter : Filter.ofAddresses (((some c).map CommaList.entries).getD []) =
      .ofAddresses [c] := Filter.ofAddresses_entries hcomma
  have hnofilter : Filter.ofAddresses ((none.map CommaList.entries).getD []) = .unrestricted := rfl
  obtain ⟨all, hall, hcases⟩ := Aggregator.run_single hc hoffers now
  have hwhole' :
      s.Responds limit now whole (jsonResponse 200 (HistoryRecord.ofHistory all).toJson) :=
    responds_list hsubject hwhole hnofilter (by rw [hall]; rfl)
  refine ⟨.ofHistory all, hwhole', ?_⟩
  rcases hcases with ⟨few, hfew, hmem⟩ | ⟨e, he, hfailed, hnone⟩
  · have hone := Aggregator.single_of_loaded hkeyed hc hfew
    obtain ⟨hfound, hmissing⟩ :=
      responds_single_of_loaded limit hsubject hc hsingle hfew hone
    have hlength : few.contacts.length ≤ 1 := by
      rcases hone.contacts_cases with hnil | ⟨k, hk, -⟩
      · simp [hnil]
      · simp [hk]
    have hlist :
        s.Responds limit now narrow (jsonResponse 200 (HistoryRecord.ofHistory few).toJson) :=
      responds_list hsubject hnarrow hfilter (by rw [hfew]; rfl)
    refine ⟨.inl ⟨.ofHistory few, hlist, (List.length_map _).trans_le hlength, ?_,
      fun hnil => hmissing (List.map_eq_nil_iff.mp hnil)⟩, ?_⟩
    · intro entry hentry
      obtain ⟨k, hk, rfl⟩ := List.mem_map.mp hentry
      exact hfound k hk
    · intro entry hentry hx
      obtain ⟨k, hk, rfl⟩ := List.mem_map.mp hentry
      exact hfound k (hmem k hk hx)
  · refine ⟨.inr ⟨⟨e, he⟩, responds_list hsubject hnarrow hfilter (by rw [hfailed]; rfl),
      responds_single hsubject hc hsingle (by rw [hfailed]; rfl)⟩, ?_⟩
    intro entry hentry hx
    obtain ⟨k, hk, rfl⟩ := List.mem_map.mp hentry
    exact absurd hx (hnone k hk)

/-- One source of two is asked about two counterparties: one that it has, in a spelling that has to
be encoded, and one that it has not. -/
theorem single_agrees_with_list_spelled :
    let known : Signal := .ofEvents .crcTrust "0xdef" [⟨.outward, "50", ⟨1000⟩⟩]
    let other : Signal := .ofEvents .crcTrust "0x123" [⟨.inward, "70", ⟨9000⟩⟩]
    let a : Aggregator :=
      ⟨.ofSources [⟨.crcTrust, fun _ _ => pure <| .after 1 (.ok [other, known])⟩,
        ⟨.chatMessage, fun _ _ => pure .stalled⟩], fun _ => pure (.ok .empty)⟩
    let s : Service := ⟨a, .all, .ok ()⟩
    let list (query : String) : Request :=
      ⟨"GET", "/v1/subjects/%200xABC/contacts", some query, [], []⟩
    let single (counterparty : String) : Request :=
      ⟨"GET", "/v1/subjects/%200xABC/contacts/" ++ counterparty, some "sources=crc-trust", [], []⟩
    let entry : ContactRecord := ⟨"0xdef", "1000", [⟨"CrcTrust", ["Out"], ["50"], ["1000"]⟩], none⟩
    let far : ContactRecord := ⟨"0x123", "9000", [⟨"CrcTrust", ["In"], ["70"], ["9000"]⟩], none⟩
    let sends (r : Request) (h : HistoryRecord) :=
      s.Responds bodyLimit .epoch r (jsonResponse 200 h.toJson)
    sends (list "sources=crc-trust") ⟨"9000", [far, entry]⟩ ∧
      sends (list "sources=crc-trust&addresses=%200xDEF") ⟨"1000", [entry]⟩ ∧
      s.Responds bodyLimit .epoch (single "%200xDEF") (jsonResponse 200 entry.toJson) ∧
      sends (list "sources=crc-trust&addresses=0xFFF") ⟨"-1", []⟩ ∧
      s.Responds bodyLimit .epoch (single "0xFFF") contactNotFound := by
  intro known other a s list single entry far sends
  have hkeyed : a.HasKeyedProfiles := by
    rintro addresses table h
    cases h
    exact fun e he => absurd he List.not_mem_nil
  have hoffers : ∀ t ∈ s.aggregator.registry.select (s.selectionOf (some "crc-trust")),
      t.Offers (Address.normalize " 0xABC") [other, known] := by
    intro t ht
    have hselected : s.aggregator.registry.select (s.selectionOf (some "crc-trust")) =
        [⟨.crcTrust, fun _ _ => pure <| .after 1 (.ok [other, known])⟩] := rfl
    rw [hselected] at ht
    obtain rfl := List.mem_singleton.mp ht
    exact fun _ => ⟨1, .inl rfl⟩
  let path := Question.path ⟨" 0xABC", [], []⟩
  have hwholeSent : Request.ofParts? "GET"
      (Question.target path (Question.query? [("sources", "crc-trust")])) [] [] =
        some (list "sources=crc-trust") := by decide +kernel
  have hwhole : (list "sources=crc-trust").Gets .contacts [" 0xABC"]
      [("sources", some "crc-trust"), ("addresses", none)] :=
    Request.gets_contacts hwholeSent (by decide)
  have hnarrow (c query : String) (hsent : Request.ofParts? "GET"
      (Question.target path (Question.query? [("sources", "crc-trust"), ("addresses", c)]))
        [] [] = some (list query)) :
      (list query).Gets .contacts [" 0xABC"]
        [("sources", some "crc-trust"), ("addresses", some c)] :=
    Request.gets_contacts hsent (by simp [Form.values])
  have hsingle (c counterparty : String) (hc : c ≠ "") (hsent : Request.ofParts? "GET"
      (Question.target (Request.contactPath " 0xABC" c)
        (Question.query? [("sources", "crc-trust")])) [] [] = some (single counterparty)) :
      (single counterparty).Gets .contact [" 0xABC", c] [("sources", some "crc-trust")] :=
    Request.gets_contact hc hsent (by decide)
  let cs : List Contact :=
    [⟨"0x123", [other], ⟨9000⟩, none⟩, ⟨"0xdef", [known], ⟨1000⟩, none⟩]
  have hsorted : Contact.sorted cs = cs := List.mergeSort_of_pairwise (by decide)
  have hrun : (a.run " 0xABC" (s.selectionOf (some "crc-trust")) .unrestricted .epoch).outcome =
      .loaded ⟨some ⟨9000⟩, cs⟩ :=
    congrArg (fun cs => Outcome.loaded ⟨some ⟨9000⟩, cs⟩) hsorted
  have hrecord : HistoryRecord.ofHistory ⟨some ⟨9000⟩, cs⟩ = ⟨"9000", [far, entry]⟩ := by
    decide +kernel
  have hlisted : sends (list "sources=crc-trust") ⟨"9000", [far, entry]⟩ := by
    rw [← hrecord]
    have hnofilter :
        Filter.ofAddresses ((none.map CommaList.entries).getD []) = .unrestricted := rfl
    exact responds_list (by decide) hwhole hnofilter (congrArg (Inquiry.respond _) hrun)
  obtain ⟨all, hall, hcases, -⟩ := single_agrees_with_list s bodyLimit .epoch " 0xABC" " 0xDEF"
    (some "crc-trust") (fun _ => [other, known]) (by decide) (by decide) (by decide) hkeyed hoffers
    hwhole (hnarrow " 0xDEF" "sources=crc-trust&addresses=%200xDEF" (by decide +kernel))
    (hsingle " 0xDEF" "%200xDEF" (by decide) (by decide +kernel))
  obtain ⟨_, -, hcases', -⟩ := single_agrees_with_list s bodyLimit .epoch " 0xABC" "0xFFF"
    (some "crc-trust") (fun _ => [other, known]) (by decide) (by decide) (by decide) hkeyed hoffers
    hwhole (hnarrow "0xFFF" "sources=crc-trust&addresses=0xFFF" (by decide +kernel))
    (hsingle "0xFFF" "0xFFF" (by decide) (by decide +kernel))
  obtain ⟨few, hfew, -, hfound, -⟩ | ⟨⟨e, he⟩, -⟩ := hcases
  · obtain ⟨none, hnone, -, -, hmissing⟩ | ⟨⟨e, he⟩, -⟩ := hcases'
    · obtain rfl : all = ⟨"9000", [far, entry]⟩ :=
        hall.record_eq (hlisted (.still .epoch) .empty rfl)
      obtain rfl : few = ⟨"1000", [entry]⟩ := hfew.record_eq (by decide +kernel)
      obtain rfl : none = ⟨"-1", []⟩ := hnone.record_eq (by decide +kernel)
      exact ⟨hall, hfew, hfound entry List.mem_cons_self, hnone, hmissing rfl⟩
    · cases he
  · cases he

end Http.Service
end ContactHistory
