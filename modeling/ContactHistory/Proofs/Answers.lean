import ContactHistory.Http.Service
import ContactHistory.Settings

namespace ContactHistory

/-- A run depends on its subject by the normal form alone. -/
theorem Aggregator.run_congr_subject (a : Aggregator) {s t : String}
    (h : Address.normalize s = Address.normalize t) (selection : Selection) (filter : Filter)
    (now : Instant) : a.run s selection filter now = a.run t selection filter now := by
  unfold Aggregator.run
  rw [h]

namespace Http

namespace Response

/-- What of a response is sent to a request: to one for the head, all but the body. -/
def sentTo (response : Response) (r : Request) : Response :=
  if r.method = "HEAD" then response.withoutBody else response

theorem sentTo_of_head {r : Request} (h : r.method = "HEAD") (response : Response) :
    response.sentTo r = response.withoutBody := if_pos h

theorem sentTo_of_not_head {r : Request} (h : r.method ≠ "HEAD") (response : Response) :
    response.sentTo r = response := if_neg h

theorem status_sentTo (response : Response) (r : Request) :
    (response.sentTo r).status = response.status := by
  unfold sentTo
  split <;> rfl

end Response

namespace Service

def ofDatabases (settings : Settings) (databases : Databases) : Service :=
  ⟨databases.aggregator, Settings.defaultSelection settings.defaultSources, databases.ready⟩

variable {s : Service} {limit : Nat} {r : Request}

/-- What a request asks: nothing, if it has no route that it may take, or one that asks for no
contacts. -/
def inquire (s : Service) (limit : Nat) (r : Request) : Except Response (Option Inquiry) :=
  match Route.ofPath? r.path with
  | none => .ok none
  | some route =>
    if route.methods.contains r.method then
      Inquiry.ofRequest s.defaultSelection limit route ((route.parametersOf? r.path).getD []) r
    else .ok none

theorem inquire_of_route {route : Route} (hroute : Route.ofPath? r.path = some route)
    (hmethod : route.methods.contains r.method = true) :
    s.inquire limit r = Inquiry.ofRequest s.defaultSelection limit route
      ((route.parametersOf? r.path).getD []) r := by
  unfold inquire
  rw [hroute]
  exact if_pos hmethod

theorem exists_route_of_inquire (h : s.inquire limit r ≠ .ok none) :
    ∃ route, Route.ofPath? r.path = some route ∧ route.methods.contains r.method = true := by
  unfold inquire at h
  cases hroute : Route.ofPath? r.path with
  | none => simp [hroute] at h
  | some route =>
    refine ⟨route, rfl, ?_⟩
    cases hmethod : route.methods.contains r.method with
    | true => rfl
    | false =>
      simp only [hroute, hmethod] at h
      exact absurd rfl h

/-- A request for the head is sent the response without its body. -/
theorem answer_eq_of_route {route : Route} (hroute : Route.ofPath? r.path = some route)
    (hmethod : route.methods.contains r.method = true) (clocks : Clocks) (m : Metrics) :
    let a := s.answerRoute clocks limit route ((route.parametersOf? r.path).getD []) r m
    s.answer clocks limit r m = { a with response := a.response.map (·.sentTo r) } := by
  unfold answer
  simp only [hroute, hmethod, if_true]
  split
  · next hhead => simp only [Response.sentTo_of_head hhead]
  · next hhead => simp only [Response.sentTo_of_not_head hhead, Option.map_id']

theorem answerRoute_of_refusal {route : Route} {parameters : List String} {response : Response}
    (h : Inquiry.ofRequest s.defaultSelection limit route parameters r = .error response)
    (clocks : Clocks) (m : Metrics) :
    s.answerRoute clocks limit route parameters r m = ⟨some response, none, m⟩ := by
  cases route with
  | health | metrics | description => cases h
  | aggregate | contacts | contact => simp only [answerRoute, h]

/-- A handler that is asked something answers with the run of the inquiry. -/
theorem answerRoute_of_inquiry {route : Route} {parameters : List String} {i : Inquiry}
    (h : Inquiry.ofRequest s.defaultSelection limit route parameters r = .ok (some i))
    (clocks : Clocks) (m : Metrics) :
    s.answerRoute clocks limit route parameters r m =
      ⟨i.respond (s.runInquiry clocks.now i).outcome, some (s.runInquiry clocks.now i),
        countRun m clocks.sourceNanos (s.runInquiry clocks.now i)⟩ := by
  cases route with
  | health | metrics | description => cases h
  | aggregate | contacts | contact => simp only [answerRoute, h]

theorem answer_eq_of_refusal {response : Response} (h : s.inquire limit r = .error response)
    (clocks : Clocks) (m : Metrics) :
    s.answer clocks limit r m = ⟨some (response.sentTo r), none, m⟩ := by
  obtain ⟨route, hroute, hmethod⟩ := exists_route_of_inquire (s := s) (r := r) (by rw [h]; simp)
  rw [inquire_of_route hroute hmethod] at h
  rw [answer_eq_of_route hroute hmethod, answerRoute_of_refusal h]
  rfl

/-- A request that asks something is answered with the run of its inquiry. -/
theorem answer_eq_of_inquiry {i : Inquiry} (h : s.inquire limit r = .ok (some i))
    (clocks : Clocks) (m : Metrics) :
    s.answer clocks limit r m =
      ⟨(i.respond (s.runInquiry clocks.now i).outcome).map (·.sentTo r),
        some (s.runInquiry clocks.now i),
        countRun m clocks.sourceNanos (s.runInquiry clocks.now i)⟩ := by
  obtain ⟨route, hroute, hmethod⟩ := exists_route_of_inquire (s := s) (r := r) (by rw [h]; simp)
  rw [inquire_of_route hroute hmethod] at h
  rw [answer_eq_of_route hroute hmethod, answerRoute_of_inquiry h]

theorem answer_of_refusal {response : Response} (h : s.inquire limit r = .error response)
    (hhead : r.method ≠ "HEAD") (clocks : Clocks) (m : Metrics) :
    s.answer clocks limit r m = ⟨some response, none, m⟩ := by
  rw [answer_eq_of_refusal h, Response.sentTo_of_not_head hhead]

theorem answer_of_inquiry {i : Inquiry} (h : s.inquire limit r = .ok (some i))
    (hhead : r.method ≠ "HEAD") (clocks : Clocks) (m : Metrics) :
    s.answer clocks limit r m =
      ⟨i.respond (s.runInquiry clocks.now i).outcome, some (s.runInquiry clocks.now i),
        countRun m clocks.sourceNanos (s.runInquiry clocks.now i)⟩ := by
  rw [answer_eq_of_inquiry h]
  simp only [Response.sentTo_of_not_head hhead, Option.map_id']

/-- A request that asks nothing gets a response and runs nothing; that the service is up may be
noted on the way. -/
theorem answer_of_nothing (h : s.inquire limit r = .ok none) (clocks : Clocks) (m : Metrics) :
    ∃ response m', s.answer clocks limit r m = ⟨some response, none, m'⟩ ∧
      (m' = m ∨ m' = m.setUp serviceName) := by
  cases hroute : Route.ofPath? r.path with
  | none => exact ⟨.empty 404, m, by simp only [answer, hroute], .inl rfl⟩
  | some route =>
    cases hmethod : route.methods.contains r.method with
    | false =>
      refine ⟨methodNotAllowed route, m, ?_, .inl rfl⟩
      simp only [answer, hroute, hmethod]
      rfl
    | true =>
      rw [inquire_of_route hroute hmethod] at h
      rw [answer_eq_of_route hroute hmethod]
      cases route with
      | health | description => exact ⟨_, m, rfl, .inl rfl⟩
      | metrics => exact ⟨_, m.setUp serviceName, rfl, .inr rfl⟩
      | aggregate | contacts | contact =>
        simp only [answerRoute, h]
        exact ⟨_, m, rfl, .inl rfl⟩

end Service

namespace Answer

/-- The status of the response, if there is one. -/
def status? (a : Answer) : Option Nat := a.response.map Response.status

end Answer
end Http
end ContactHistory
