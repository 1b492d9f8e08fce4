import ContactHistory.Proofs.AddressFilters
import ContactHistory.Proofs.Answers
import ContactHistory.Proofs.FrontEnds.Question
import ContactHistory.Proofs.Rows
import ContactHistory.Proofs.SourceNames
import ContactHistory.Settings

namespace ContactHistory

open Http

namespace Question

/-- The names of sources that a question gives, or some default names if it gives none. -/
def names (q : Question) (defaults : List String) : List String :=
  if q.sources = [] then defaults else q.sources

/-- The question asks a source of the contact point: one of its names is a spelling of it, or there
are no names at all. -/
def Selects (q : Question) (defaults : List String) (p : ContactPoint) : Prop :=
  p.isSource = true ∧ (q.names defaults = [] ∨ ∃ s ∈ q.names defaults, ContactPoint.read s = .ok p)

/-- The question names no subject, or is narrowed to a counterparty that is not named. -/
def IsBlank (q : Question) (counterparty : Option String) : Prop :=
  Address.normalize q.subject = "" ∨ counterparty.map Address.normalize = some ""

theorem isBlank_iff {q : Question} {counterparty : Option String} :
    q.IsBlank counterparty ↔
      Text.trimmed q.subject = "" ∨ ∃ c ∈ counterparty, Text.trimmed c = "" := by
  simp [IsBlank, Address.normalize_eq_empty, Option.map_eq_some_iff]

/-- What a question means, where it is narrowed to a counterparty if one is named. -/
def inquiryFor (q : Question) (default : Selection) (counterparty : Option String) : Inquiry :=
  { q.inquiry default with counterparty := counterparty.map Address.normalize }

theorem mem_selection_iff {q : Question} {defaults : List String} {p : ContactPoint} :
    p ∈ (q.inquiry (Settings.defaultSelection defaults)).selection.points ↔
      q.Selects defaults p := by
  have hnone : (Selection.ofNamesOr .all (some [])).points = ContactPoint.sources := rfl
  simp only [inquiry, Selects, names, Settings.defaultSelection]
  by_cases hq : q.sources = []
  · rw [hq, if_pos rfl]
    change p ∈ (Selection.ofNamesOr .all (some defaults)).points ↔ _
    by_cases hd : defaults = []
    · rw [hd, hnone, ContactPoint.mem_sources]
      simp
    · rw [Selection.ofNamesOr_of_ne_nil _ hd, Selection.mem_ofNames, or_iff_right hd]
  · rw [if_neg hq, Selection.ofNamesOr_of_ne_nil _ hq, Selection.mem_ofNames, or_iff_right hq]

end Question

namespace Http.Inquiry

variable {default : Selection}

/-- The inquiry as one for a contact, if a counterparty is named. -/
def narrow (i : Inquiry) : Option String → Except Response Inquiry
  | none => .ok i
  | some counterparty =>
    if Address.normalize counterparty = "" then .error (invalidRequest "counterparty is required")
    else .ok { i with counterparty := some (Address.normalize counterparty) }

theorem ofBody_eq (b : AggregateBody) :
    ofBody default b =
      Question.toInquiry ⟨b.subject, b.sources.getD [], b.addresses.getD []⟩ default :=
  Question.requireSubject_bind ⟨b.subject, b.sources.getD [], b.addresses.getD []⟩
    (Selection.ofNamesOr_getD default b.sources) (filterOf_eq b.addresses)

theorem ofList_eq (subject : String) (form : List (String × String)) :
    ofList default subject form = Question.toInquiry
      ⟨subject, (listIn form "sources").getD [], (listIn form "addresses").getD []⟩ default :=
  Question.requireSubject_bind
    ⟨subject, (listIn form "sources").getD [], (listIn form "addresses").getD []⟩
    (Selection.ofNamesOr_getD default (listIn form "sources"))
    (filterOf_eq (listIn form "addresses"))

theorem ofSingle_eq (subject counterparty : String) (form : List (String × String)) :
    ofSingle default subject counterparty form =
      (Question.toInquiry ⟨subject, (listIn form "sources").getD [], [counterparty]⟩ default).bind
        fun i => i.narrow (some counterparty) := by
  have htoInquiry := Question.requireSubject_bind
    ⟨subject, (listIn form "sources").getD [], [counterparty]⟩
    (Selection.ofNamesOr_getD default (listIn form "sources"))
    (Filter.ofAddresses_normalize [counterparty])
  rw [← htoInquiry, ofSingle]
  cases requireSubject subject with
  | error response => rfl
  | ok subject =>
    simp only [bind, Except.bind, narrow]
    split <;> rfl

end Http.Inquiry

namespace Http.Request

variable {r : Request} {limit : Nat} {q : Question} {c : Option String} {s : Service}

/-- The path of the request has the route, and the route answers its method. -/
def Takes (r : Request) (route : Route) : Prop :=
  Route.ofPath? r.path = some route ∧ route.methods.contains r.method = true

/-- The texts that a path gives a route. -/
def texts (r : Request) (route : Route) : Except Response (List String) :=
  Inquiry.decodeParameters ((route.parametersOf? r.path).getD [])

/-- The request puts a question in a body of at most some bytes or in a target. A target may ask for
one counterparty, to which the question is then narrowed. -/
inductive Puts (limit : Nat) (r : Request) : Question → Option String → Prop
  | body {b : AggregateBody} (route : r.Takes .aggregate)
      (read : AggregateBody.ofRequest limit r = .ok b) :
      Puts limit r ⟨b.subject, b.sources.getD [], b.addresses.getD []⟩ none
  | list {subject : String} {form : List (String × String)} (route : r.Takes .contacts)
      (path : r.texts .contacts = .ok [subject])
      (query : Inquiry.queryForm r ["sources", "addresses"] = .ok form) :
      Puts limit r ⟨subject, (Inquiry.listIn form "sources").getD [],
        (Inquiry.listIn form "addresses").getD []⟩ none
  | single {subject counterparty : String} {form : List (String × String)}
      (route : r.Takes .contact) (path : r.texts .contact = .ok [subject, counterparty])
      (query : Inquiry.queryForm r ["sources"] = .ok form) :
      Puts limit r ⟨subject, (Inquiry.listIn form "sources").getD [], [counterparty]⟩
        (some counterparty)

/-- What a service makes of a question that is put to it. -/
theorem Puts.inquire (h : r.Puts limit q c) (s : Service) :
    s.inquire limit r = some <$> (q.toInquiry s.defaultSelection >>= fun i => i.narrow c) := by
  cases h with
  | body route read =>
    rw [Service.inquire_of_route route.1 route.2]
    simp only [Inquiry.ofRequest, read, bind, Except.bind, Inquiry.ofBody_eq]
    cases Question.toInquiry _ _ <;> rfl
  | list route path query =>
    rw [texts] at path
    rw [Service.inquire_of_route route.1 route.2]
    simp only [Inquiry.ofRequest, path, query, bind, Except.bind, Inquiry.ofList_eq]
    cases Question.toInquiry _ _ <;> rfl
  | single route path query =>
    rw [texts] at path
    rw [Service.inquire_of_route route.1 route.2]
    simp only [Inquiry.ofRequest, path, query, bind, Except.bind, Inquiry.ofSingle_eq]

/-- A blank question is refused for its subject, or else for its counterparty. -/
theorem Puts.inquire_of_isBlank (h : r.Puts limit q c) (hblank : q.IsBlank c) (s : Service) :
    s.inquire limit r = .error (invalidRequest (if Address.normalize q.subject = ""
      then "subject is required" else "counterparty is required")) := by
  rw [h.inquire s, Question.toInquiry]
  split
  · rfl
  · next hsubject =>
    obtain ⟨counterparty, rfl, hc⟩ := Option.map_eq_some_iff.mp (hblank.resolve_left hsubject)
    simp only [Inquiry.narrow, hc, bind, Except.bind, if_true]
    rfl

theorem Puts.inquire_of_not_isBlank (h : r.Puts limit q c) (hblank : ¬q.IsBlank c) (s : Service) :
    s.inquire limit r = .ok (some (q.inquiryFor s.defaultSelection c)) := by
  obtain ⟨hsubject, hc⟩ := not_or.mp hblank
  rw [h.inquire s, Question.toInquiry, if_neg hsubject]
  cases c with
  | none => rfl
  | some counterparty =>
    rw [Option.map_some, Option.some_inj] at hc
    simp only [Inquiry.narrow, hc, bind, Except.bind, if_false]
    rfl

/-- It is answered with the run of what it means, from its subject in any spelling. -/
theorem Puts.answer (h : r.Puts limit q c) (hblank : ¬q.IsBlank c) (s : Service) (clocks : Clocks)
    (m : Metrics) :
    let i := q.inquiryFor s.defaultSelection c
    let run := s.aggregator.run q.subject i.selection i.filter clocks.now
    s.answer clocks limit r m =
      ⟨(i.respond run.outcome).map (·.sentTo r), some run, countRun m clocks.sourceNanos run⟩ := by
  intro i run
  have hrun : s.runInquiry clocks.now i = run :=
    s.aggregator.run_congr_subject (Address.normalize_normalize q.subject) _ _ _
  rw [← hrun]
  exact Service.answer_eq_of_inquiry (h.inquire_of_not_isBlank hblank s) clocks m

theorem exists_puts_of_inquire {i : Inquiry} (h : s.inquire limit r = .ok (some i)) :
    ∃ q c, r.Puts limit q c := by
  have hasked : s.inquire limit r ≠ .ok none := by simp [h]
  obtain ⟨route, hroute, hmethod⟩ := Service.exists_route_of_inquire hasked
  rw [Service.inquire_of_route hroute hmethod] at h
  cases route with
  | health | metrics | description => cases h
  | aggregate =>
    obtain ⟨b, hb, -⟩ := bind_eq_ok_iff.mp h
    exact ⟨_, _, .body ⟨hroute, hmethod⟩ hb⟩
  | contacts =>
    obtain ⟨texts, htexts, h⟩ := bind_eq_ok_iff.mp h
    obtain ⟨form, hform, h⟩ := bind_eq_ok_iff.mp h
    split at h
    · exact ⟨_, _, .list ⟨hroute, hmethod⟩ htexts hform⟩
    · cases h
  | contact =>
    obtain ⟨texts, htexts, h⟩ := bind_eq_ok_iff.mp h
    obtain ⟨form, hform, h⟩ := bind_eq_ok_iff.mp h
    split at h
    · exact ⟨_, _, .single ⟨hroute, hmethod⟩ htexts hform⟩
    · cases h

end Http.Request
end ContactHistory
