import ContactHistory.Proofs.FrontEnds.Requests

namespace ContactHistory

open Http Text

theorem Http.Request.Puts.route_eq_contact_iff {limit : Nat} {r : Request} {q : Question}
    {counterparty : Option String} (h : r.Puts limit q counterparty) :
    Route.ofPath? r.path = some .contact ↔ counterparty ≠ none := by
  cases h with
  | body route | list route | single route => simp [route.1]

/-- A history has no contact of a counterparty if none of its contacts has that address. -/
theorem History.find?_eq_none_iff {h : History} {c : String} :
    h.find? c = none ↔ ∀ k ∈ h.contacts, k.counterparty ≠ c := by
  simp [find?]

namespace Http

/-- The response tells of an error: its body is an object of JSON with a code and a message. -/
def Response.Reports (response : Response) (status : Nat) (code message : String) : Prop :=
  response.status = status ∧ response.headers = [("content-type", "application/json")] ∧
    response.body = "\x7b\"code\":\"" ++ code ++ "\",\"message\":\"" ++ message ++ "\"\x7d"

instance (response : Response) (status : Nat) (code message : String) :
    Decidable (response.Reports status code message) :=
  inferInstanceAs (Decidable (_ ∧ _ ∧ _))

theorem reports_subject :
    (invalidRequest "subject is required").Reports 400 "INVALID_REQUEST" "subject is required" := by
  decide +kernel

theorem reports_counterparty :
    (invalidRequest "counterparty is required").Reports 400 "INVALID_REQUEST"
      "counterparty is required" := by
  decide +kernel

theorem reports_aggregationFailed :
    aggregationFailed.Reports 500 "AGGREGATION_FAILED" "contacts could not be loaded" := by
  decide +kernel

theorem reports_contactNotFound :
    contactNotFound.Reports 404 "NOT_FOUND" "contact not found" := by
  decide +kernel

/-- A request as a handler of contacts meets it: the service by then with its clocks and metrics,
the route, and the question that is read from the request. -/
structure Handling where
  service : Service
  clocks : Clocks
  metrics : Metrics
  limit : Nat
  request : Request
  route : Route
  takes : request.Takes route
  question : Question
  counterparty : Option String
  puts : request.Puts limit question counterparty

namespace Handling

variable {x : Handling}

def handled (x : Handling) : Answer :=
  x.service.answerRoute x.clocks x.limit x.route
    ((x.route.parametersOf? x.request.path).getD []) x.request x.metrics

def answer (x : Handling) : Answer :=
  x.service.answer x.clocks x.limit x.request x.metrics

def inquiry (x : Handling) : Inquiry :=
  x.question.inquiryFor x.service.defaultSelection x.counterparty

def run (x : Handling) : Run := x.service.runInquiry x.clocks.now x.inquiry

/-- The subject is blank, or the counterparty where there is one. -/
def IsBlank (x : Handling) : Prop :=
  trimmed x.question.subject = "" ∨ ∃ c ∈ x.counterparty, trimmed c = ""

instance (x : Handling) : Decidable x.IsBlank :=
  inferInstanceAs
    (Decidable (trimmed x.question.subject = "" ∨ ∃ c ∈ x.counterparty, trimmed c = ""))

def Fails (x : Handling) : Prop := ¬x.IsBlank ∧ ∃ e, x.run.outcome = .failed e

/-- The request is for one contact, and a history has none of its address. -/
def Misses (x : Handling) (h : History) : Prop :=
  ∃ c ∈ x.counterparty, ∀ k ∈ h.contacts, k.counterparty ≠ Address.normalize c

/-- The service sends what the handler made, and does nothing else. -/
theorem answer_eq (x : Handling) :
    x.answer = { x.handled with response := x.handled.response.map (·.sentTo x.request) } :=
  Service.answer_eq_of_route x.takes.1 x.takes.2 x.clocks x.metrics

theorem handled_of_isBlank (h : x.IsBlank) :
    ∃ message ∈ ["subject is required", "counterparty is required"],
      x.handled = ⟨some (invalidRequest message), none, x.metrics⟩ := by
  have hrefused := x.puts.inquire_of_isBlank (Question.isBlank_iff.mpr h) x.service
  rw [Service.inquire_of_route x.takes.1 x.takes.2] at hrefused
  refine ⟨_, ?_, Service.answerRoute_of_refusal hrefused x.clocks x.metrics⟩
  split <;> simp

theorem handled_of_not_isBlank (h : ¬x.IsBlank) :
    x.handled.response = x.inquiry.respond x.run.outcome ∧ x.handled.run = some x.run := by
  have hasked := x.puts.inquire_of_not_isBlank (mt Question.isBlank_iff.mp h) x.service
  rw [Service.inquire_of_route x.takes.1 x.takes.2] at hasked
  rw [handled, Service.answerRoute_of_inquiry hasked]
  exact ⟨rfl, rfl⟩

theorem response_of_fails (h : x.Fails) : x.handled.response = some aggregationFailed := by
  obtain ⟨hblank, e, he⟩ := h
  rw [(handled_of_not_isBlank hblank).1, he]
  rfl

theorem route_eq_contact_iff (x : Handling) : x.route = .contact ↔ x.counterparty ≠ none := by
  rw [← x.puts.route_eq_contact_iff, x.takes.1, Option.some_inj]

theorem counterparty_inquiry (x : Handling) :
    x.inquiry.counterparty = x.counterparty.map Address.normalize := rfl

theorem answerWith_of_misses {h : History} (hmisses : x.Misses h) :
    x.inquiry.answerWith h = contactNotFound := by
  obtain ⟨c, hc, hnone⟩ := hmisses
  have hfind := History.find?_eq_none_iff.mpr hnone
  rw [Option.mem_def] at hc
  simp only [Inquiry.answerWith, counterparty_inquiry, hc, Option.map_some, hfind]

theorem status_answerWith_of_not_misses {h : History} (hfound : ¬x.Misses h) :
    (x.inquiry.answerWith h).status = 200 := by
  cases hc : x.counterparty with
  | none =>
    simp only [Inquiry.answerWith, counterparty_inquiry, hc, Option.map_none]
    rfl
  | some c =>
    simp only [Inquiry.answerWith, counterparty_inquiry, hc, Option.map_some]
    cases hfind : h.find? (Address.normalize c) with
    | none => exact absurd ⟨c, hc, History.find?_eq_none_iff.mp hfind⟩ hfound
    | some contact => rfl

/-- The four ways in which a handling ends, with their responses. -/
inductive Ends (x : Handling) : Response → Prop
  | refused {message : String} (blank : x.IsBlank)
      (known : message ∈ ["subject is required", "counterparty is required"]) :
      Ends x (invalidRequest message)
  | failed {e : AggregationError} (asked : ¬x.IsBlank) (outcome : x.run.outcome = .failed e) :
      Ends x aggregationFailed
  | missing {h : History} (asked : ¬x.IsBlank) (outcome : x.run.outcome = .loaded h)
      (misses : x.Misses h) : Ends x contactNotFound
  | found {h : History} {response : Response} (asked : ¬x.IsBlank)
      (outcome : x.run.outcome = .loaded h) (finds : ¬x.Misses h)
      (status : response.status = 200) : Ends x response

theorem exists_ends (hends : x.IsBlank ∨ x.run.outcome ≠ .stalled) :
    ∃ response, x.handled.response = some response ∧ x.Ends response := by
  by_cases hblank : x.IsBlank
  · obtain ⟨message, hknown, hhandled⟩ := handled_of_isBlank hblank
    exact ⟨_, by rw [hhandled], .refused hblank hknown⟩
  · rw [(handled_of_not_isBlank hblank).1]
    cases houtcome : x.run.outcome with
    | stalled => exact absurd houtcome (hends.resolve_left hblank)
    | failed e => exact ⟨_, rfl, .failed hblank houtcome⟩
    | loaded h =>
      refine ⟨_, rfl, ?_⟩
      by_cases hmisses : x.Misses h
      · rw [answerWith_of_misses hmisses]
        exact .missing hblank houtcome hmisses
      · exact .found hblank houtcome hmisses (status_answerWith_of_not_misses hmisses)

namespace Ends

variable {response : Response}

theorem status_eq_400_iff (hr : x.Ends response) : response.status = 400 ↔ x.IsBlank := by
  cases hr with
  | refused blank => exact iff_of_true rfl blank
  | failed asked | missing asked => exact iff_of_false (by decide) asked
  | found asked outcome finds status => exact iff_of_false (by simp [status]) asked

theorem status_eq_500_iff (hr : x.Ends response) : response.status = 500 ↔ x.Fails := by
  cases hr with
  | refused blank =>
    exact iff_of_false (by simp [invalidRequest, Response.ofText]) fun h => h.1 blank
  | failed asked outcome => exact iff_of_true rfl ⟨asked, _, outcome⟩
  | missing asked outcome => exact iff_of_false (by decide) fun h => by simp [Fails, outcome] at h
  | found asked outcome finds status =>
    exact iff_of_false (by simp [status]) fun h => by simp [Fails, outcome] at h

theorem status_eq_404_iff (hr : x.Ends response) :
    response.status = 404 ↔ ¬x.IsBlank ∧ ∃ h, x.run.outcome = .loaded h ∧ x.Misses h := by
  cases hr with
  | refused blank =>
    exact iff_of_false (by simp [invalidRequest, Response.ofText]) fun h => h.1 blank
  | failed asked outcome => exact iff_of_false (by decide) fun h => by simp [outcome] at h
  | missing asked outcome misses => exact iff_of_true rfl ⟨asked, _, outcome, misses⟩
  | found asked outcome finds status =>
    refine iff_of_false (by simp [status]) ?_
    rintro ⟨-, h, hloaded, hmisses⟩
    rw [outcome] at hloaded
    cases hloaded
    exact finds hmisses

theorem reports (hr : x.Ends response) :
    response.Reports 400 "INVALID_REQUEST" "subject is required" ∨
      response.Reports 400 "INVALID_REQUEST" "counterparty is required" ∨
      response.Reports 500 "AGGREGATION_FAILED" "contacts could not be loaded" ∨
      response.Reports 404 "NOT_FOUND" "contact not found" ∨ response.status = 200 := by
  cases hr with
  | refused blank known =>
    rcases List.mem_pair.mp known with rfl | rfl
    · exact .inl reports_subject
    · exact .inr (.inl reports_counterparty)
  | failed => exact .inr (.inr (.inl reports_aggregationFailed))
  | missing => exact .inr (.inr (.inr (.inl reports_contactNotFound)))
  | found asked outcome finds status => exact .inr (.inr (.inr (.inr status)))

end Ends

/-- A handler refuses a blank question, running nothing and counting nothing. Otherwise the outcome
of the run decides between the response to a failure, that a contact is not found, and success. The
response to a failure is that to every other failure, whatever failed with what error, and whichever
handler was asked. -/
theorem responds_by_outcome (x : Handling) (hends : x.IsBlank ∨ x.run.outcome ≠ .stalled) :
    (x.route = .contact ↔ x.counterparty ≠ none) ∧
    ∃ response, x.handled.response = some response ∧
      x.answer.response = some (response.sentTo x.request) ∧
      (response.status = 400 ↔ x.IsBlank) ∧
      (x.IsBlank → x.answer.run = none ∧ x.answer.metrics = x.metrics) ∧
      (¬x.IsBlank → x.answer.run = some x.run) ∧
      (response.status = 500 ↔ x.Fails) ∧
      (response.status = 404 ↔ ¬x.IsBlank ∧ ∃ h, x.run.outcome = .loaded h ∧ x.Misses h) ∧
      (response.Reports 400 "INVALID_REQUEST" "subject is required" ∨
        response.Reports 400 "INVALID_REQUEST" "counterparty is required" ∨
        response.Reports 500 "AGGREGATION_FAILED" "contacts could not be loaded" ∨
        response.Reports 404 "NOT_FOUND" "contact not found" ∨ response.status = 200) ∧
      ∀ y : Handling, x.Fails → y.Fails → y.handled.response = some response := by
  obtain ⟨response, hresponse, hr⟩ := exists_ends hends
  have hsent := x.answer_eq
  refine ⟨x.route_eq_contact_iff, response, hresponse, ?_, hr.status_eq_400_iff, fun hblank => ?_,
    fun hblank => ?_, hr.status_eq_500_iff, hr.status_eq_404_iff, hr.reports, fun y hx hy => ?_⟩
  · rw [hsent, hresponse]
    rfl
  · obtain ⟨message, -, hhandled⟩ := handled_of_isBlank hblank
    rw [hsent, hhandled]
    exact ⟨rfl, rfl⟩
  · rw [hsent, (handled_of_not_isBlank hblank).2]
  · -- The error is forgotten in each of the runs, so neither has to be compared with the other.
    rw [response_of_fails hy, ← response_of_fails hx, hresponse]

/-- A handling at the start of time, over an aggregator, of a question without names of sources. -/
def ofAggregator (a : Aggregator) {r : Request} {route : Route} {subject : String}
    {addresses : List String} {counterparty : Option String} (takes : r.Takes route)
    (puts : r.Puts bodyLimit ⟨subject, [], addresses⟩ counterparty) : Handling :=
  ⟨⟨a, .all, .ok ()⟩, .still .epoch, .empty, bodyLimit, r, route, takes, _, _, puts⟩

/-- A body is put to a source that quotes from a row in its error. -/
def posted : Handling :=
  let quoting : Source := ⟨.crcTrust, fun _ _ =>
    pure <| .after 1 (.error (.decode (.misaligned .crcTrust "0xdef" 2 1 1)))⟩
  let r : Request := ⟨"POST", "/v1/contacts/aggregate", none,
    [("content-type", "application/json")], Utf8.encode "\x7b\"subject\":\" 0xABC\"\x7d"⟩
  have takes : r.Takes .aggregate := ⟨by decide, by decide⟩
  have read : AggregateBody.ofRequest bodyLimit r = .ok ⟨" 0xABC", none, none⟩ := by
    decide +kernel
  ofAggregator ⟨.ofSources [quoting], fun _ => pure (.ok .empty)⟩ takes (.body takes read)

/-- One contact is asked for where no profile can be looked up. -/
def targeted : Handling :=
  let r : Request := ⟨"GET", "/v1/subjects/%200xABC/contacts/0xDEF", none, [], []⟩
  have takes : r.Takes .contact := ⟨by decide, by decide⟩
  have path : r.texts .contact = .ok [" 0xABC", "0xDEF"] := by decide +kernel
  have query : Inquiry.queryForm r ["sources"] = .ok [] := by decide +kernel
  ofAggregator ⟨.ofSources [], fun _ => pure (.error .poolTimedOut)⟩ takes
    (.single takes path query)

/-- Two failures of different kinds, behind different routes, look alike. -/
theorem responds_by_outcome_failures :
    posted.Fails ∧ targeted.Fails ∧ posted.run.outcome ≠ targeted.run.outcome ∧
      ∃ response, response.Reports 500 "AGGREGATION_FAILED" "contacts could not be loaded" ∧
        posted.handled.response = some response ∧ targeted.handled.response = some response := by
  have hposted : posted.Fails := ⟨by decide, _, rfl⟩
  have htargeted : targeted.Fails := ⟨by decide, _, rfl⟩
  obtain ⟨-, response, hresponse, -, -, -, -, hstatus, -, hreports, hsame⟩ :=
    responds_by_outcome posted (.inr (by decide))
  refine ⟨hposted, htargeted, by decide, response, ?_, hresponse,
    hsame targeted hposted htargeted⟩
  -- Of the responses that there are, only that to a failure has its status.
  have hfailed : response.status = 500 := hstatus.mpr hposted
  rcases hreports with h | h | h | h | h
  · simp [h.1] at hfailed
  · simp [h.1] at hfailed
  · exact h
  · simp [h.1] at hfailed
  · simp [h] at hfailed

end Handling
end Http
end ContactHistory
