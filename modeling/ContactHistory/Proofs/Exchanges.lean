import ContactHistory.Http.Layers
import ContactHistory.Proofs.Answers
import ContactHistory.Proofs.SeriesCounts

namespace ContactHistory

namespace Metrics

/-- The series of requests: how many there were, and how long they took. -/
def http (m : Metrics) : Series Nat × Series Histogram := (m.requests, m.requestSeconds)

/-- Counts a request by its label values and the nanoseconds that it took. -/
def record (s : Series Nat × Series Histogram) (mark : List String × Nat) :
    Series Nat × Series Histogram :=
  (s.1.update mark.1 0 (· + 1),
    s.2.update mark.1 (.empty requestBounds) (.observe requestBounds mark.2))

theorem http_addRequest (m : Metrics) (service method route : String) (status nanos : Nat) :
    (m.addRequest service method route status nanos).http =
      record m.http (requestLabels service method route status, nanos) := rfl

end Metrics

namespace Http

open Metrics

/-! ### Answers leave the series of requests alone -/

theorem http_countRun (m : Metrics) (nanos : ContactPoint → Nat) (r : Run) :
    (countRun m nanos r).http = m.http := by
  rw [countRun, countSources_eq]
  cases r.outcome <;> rfl

namespace Service

variable {s : Service} {clocks : Clocks} {limit : Nat} {r : Request} {m : Metrics}

/-- The request asks something, and the run of its inquiry never ends. -/
def stalls (s : Service) (clocks : Clocks) (limit : Nat) (r : Request) : Bool :=
  match s.inquire limit r with
  | .ok (some i) => (s.runInquiry clocks.now i).outcome = .stalled
  | _ => false

/-- An answer has no response just if its run stalls, and it leaves the series of requests alone. -/
theorem answer_spec (s : Service) (clocks : Clocks) (limit : Nat) (r : Request) (m : Metrics) :
    ((s.answer clocks limit r m).response = none ↔ s.stalls clocks limit r = true) ∧
      (s.answer clocks limit r m).metrics.http = m.http := by
  unfold stalls
  cases hinquire : s.inquire limit r with
  | error response =>
    rw [answer_eq_of_refusal hinquire]
    exact ⟨by simp, rfl⟩
  | ok asked =>
    cases asked with
    | none =>
      obtain ⟨response, m', hanswer, rfl | rfl⟩ := answer_of_nothing hinquire clocks m
      · rw [hanswer]
        exact ⟨by simp, rfl⟩
      · rw [hanswer]
        exact ⟨by simp, rfl⟩
    | some i =>
      rw [answer_eq_of_inquiry hinquire]
      refine ⟨?_, http_countRun m clocks.sourceNanos _⟩
      cases hrun : (s.runInquiry clocks.now i).outcome <;> simp [Inquiry.respond, hrun]

theorem response_counted :
    (s.counted clocks limit r m).response = (s.answer clocks limit r m).response := by
  unfold counted
  cases h : (s.answer clocks limit r m).response with
  | none => simp [h]
  | some response => simp [h]

theorem http_counted : (s.counted clocks limit r m).metrics.http =
    ((s.answer clocks limit r m).response.map fun response =>
      (requestLabels serviceName r.method (routeLabel r.path) response.status,
        clocks.requestNanos)).elim m.http (record m.http) := by
  have hhttp := (answer_spec s clocks limit r m).2
  unfold counted
  cases h : (s.answer clocks limit r m).response with
  | none => simpa [h] using hhttp
  | some response =>
    simp only [h, http_addRequest, hhttp]
    rfl

end Service

/-! ### Exchanges -/

/-- A request as it arrives: the service by then, the readings of its clocks, and an id that no
other request has. -/
structure Arrival where
  service : Service
  clocks : Clocks
  freshId : String
  request : Request

structure Exchange where
  arrival : Arrival
  answer : Answer

namespace Exchange

def status? (x : Exchange) : Option Nat := x.answer.status?

/-- The label values by which the response counts. -/
def labels? (x : Exchange) : Option (List String) :=
  x.status?.map fun status => requestLabels serviceName x.arrival.request.method
    (routeLabel x.arrival.request.path) status

/-- The mark that the response leaves on the series: its label values and how long it took. -/
def mark? (x : Exchange) : Option (List String × Nat) :=
  x.labels?.map fun labels => (labels, x.arrival.clocks.requestNanos)

end Exchange

/-- A way to answer arrivals. Each response counts if it is to one of those that are counted. -/
structure Front where
  answer : Arrival → Metrics → Answer
  counts : Arrival → Bool
  http_answer : ∀ a m, (answer a m).metrics.http =
    (if counts a then Exchange.mark? ⟨a, answer a m⟩ else none).elim m.http (record m.http)

namespace Front

variable (front : Front) (arrivals : List Arrival) (m : Metrics)

def serve : List Arrival → Metrics → List Exchange × Metrics
  | [], m => ([], m)
  | a :: as, m =>
    let answer := front.answer a m
    let rest := serve as answer.metrics
    (⟨a, answer⟩ :: rest.1, rest.2)

/-- The mark of an exchange, if it counts. -/
def mark? (x : Exchange) : Option (List String × Nat) :=
  if front.counts x.arrival then x.mark? else none

theorem map_arrival_serve : (front.serve arrivals m).1.map Exchange.arrival = arrivals := by
  induction arrivals generalizing m with
  | nil => rfl
  | cons a as ih => exact congrArg (a :: ·) (ih _)

theorem forall_mem_serve {p : Exchange → Prop} (h : ∀ a m, p ⟨a, front.answer a m⟩) :
    ∀ x ∈ (front.serve arrivals m).1, p x := by
  induction arrivals generalizing m with
  | nil =>
    intro x hx
    cases hx
  | cons a as ih => exact List.forall_mem_cons.mpr ⟨h a m, ih _⟩

/-- The series of requests are what the marks of the exchanges make of them. -/
theorem http_serve : (front.serve arrivals m).2.http =
    ((front.serve arrivals m).1.filterMap front.mark?).foldl record m.http := by
  induction arrivals generalizing m with
  | nil => rfl
  | cons a as ih =>
    have hstep := front.http_answer a m
    -- The first exchange leaves its mark before the others arrive.
    change (front.serve as (front.answer a m).metrics).2.http = _
    rw [ih, hstep]
    change _ = ((_ :: (front.serve as (front.answer a m).metrics).1).filterMap _).foldl _ _
    rw [List.filterMap_cons, mark?]
    cases (if front.counts a then Exchange.mark? ⟨a, front.answer a m⟩ else none) <;> rfl

end Front

/-- The service itself, which counts all of its responses. -/
def Front.counted (limit : Nat) : Front where
  answer a m := a.service.counted a.clocks limit a.request m
  counts _ := true
  http_answer a m := by
    rw [Service.http_counted]
    simp only [Exchange.mark?, Exchange.labels?, Exchange.status?, Answer.status?,
      Service.response_counted, Option.map_map, if_true]
    rfl

/-! ### The deployed service -/

namespace Arrival

/-- The number of bytes that the body may have: no more than were announced. -/
def limit (a : Arrival) : Nat := (announcedLength? a.request).getD bodyLimit

/-- The request announces a body of more than two mebibytes. -/
def announcesTooMuch (a : Arrival) : Bool := (announcedLength? a.request).any (2 * 1024 * 1024 < ·)

/-- The request is let through and not answered in time: its run never ends, or the request takes
longer than thirty seconds. -/
def timesOut (a : Arrival) : Bool :=
  !a.announcesTooMuch &&
    (a.service.stalls a.clocks a.limit a.request || 30 * 1000000000 < a.clocks.requestNanos)

def answered (a : Arrival) (m : Metrics) : Answer := a.service.answer a.clocks a.limit a.request m

theorem announcesTooMuch_iff {a : Arrival} : a.announcesTooMuch = true ↔ bodyLimit < a.limit := by
  unfold announcesTooMuch limit bodyLimit
  cases announcedLength? a.request <;> simp

end Arrival

/-- The answer of the service as it is deployed. -/
def answerDeployed (a : Arrival) (m : Metrics) : Answer :=
  a.service.deployed a.clocks a.freshId a.request m

/-- The id of a request changes neither the status of its response nor the metrics. -/
theorem status?_answerDeployed (a : Arrival) (m : Metrics) :
    (answerDeployed a m).status? = (a.service.limited a.clocks a.request m).status? := by
  simp only [answerDeployed, Service.deployed, Answer.status?, Option.map_map]
  rfl

theorem metrics_answerDeployed (a : Arrival) (m : Metrics) :
    (answerDeployed a m).metrics = (a.service.limited a.clocks a.request m).metrics := rfl

theorem answerDeployed_of_announcesTooMuch {a : Arrival} (h : a.announcesTooMuch = true)
    (m : Metrics) :
    (answerDeployed a m).status? = some 413 ∧ (answerDeployed a m).metrics.http = m.http := by
  have hlimit : bodyLimit < (announcedLength? a.request).getD bodyLimit :=
    Arrival.announcesTooMuch_iff.mp h
  unfold answerDeployed Service.deployed Service.limited
  simp only [if_pos hlimit]
  exact ⟨rfl, trivial⟩

/-- What is let through is given up if it times out, and else answered by the service. -/
theorem limited_of_not_announcesTooMuch {a : Arrival} (h : a.announcesTooMuch = false)
    (m : Metrics) :
    let inner := a.service.counted a.clocks a.limit a.request m
    a.service.limited a.clocks a.request m =
      if a.timesOut then Service.givenUp a.clocks inner.run m else inner := by
  intro inner
  have hlimit : ¬bodyLimit < a.limit := fun hlt => by
    rw [Arrival.announcesTooMuch_iff.mpr hlt] at h
    cases h
  have hnone : inner.response.isNone = a.service.stalls a.clocks a.limit a.request := by
    rw [Bool.eq_iff_iff, Option.isNone_iff_eq_none, Service.response_counted]
    exact (Service.answer_spec a.service a.clocks a.limit a.request m).1
  have htimesOut : a.timesOut =
      (inner.response.isNone || decide (requestTimeout < a.clocks.requestNanos)) := by
    rw [Arrival.timesOut, h, hnone]
    rfl
  rw [htimesOut]
  exact if_neg hlimit

theorem answerDeployed_of_timesOut {a : Arrival} (h : a.timesOut = true) (m : Metrics) :
    (answerDeployed a m).status? = some 408 ∧ (answerDeployed a m).metrics.http = m.http := by
  have hannounced : a.announcesTooMuch = false := by
    rw [Arrival.timesOut, Bool.and_eq_true, Bool.not_eq_true'] at h
    exact h.1
  rw [status?_answerDeployed, metrics_answerDeployed, limited_of_not_announcesTooMuch hannounced,
    if_pos h, Service.givenUp, countSources_eq]
  exact ⟨rfl, rfl⟩

/-- What is neither refused nor given up has the response of the service. -/
theorem answerDeployed_of_inTime {a : Arrival} (h : a.announcesTooMuch = false)
    (h' : a.timesOut = false) (m : Metrics) :
    (answerDeployed a m).status? = (a.answered m).status? ∧
      (answerDeployed a m).metrics =
        (a.service.counted a.clocks a.limit a.request m).metrics := by
  rw [status?_answerDeployed, metrics_answerDeployed, limited_of_not_announcesTooMuch h, h',
    if_neg Bool.false_ne_true, Answer.status?, Answer.status?, Service.response_counted,
    Arrival.answered]
  exact ⟨rfl, rfl⟩

/-- The mark of its response is left by what is neither refused nor given up. -/
theorem http_answerDeployed_of_inTime {a : Arrival} (h : a.announcesTooMuch = false)
    (h' : a.timesOut = false) (m : Metrics) :
    (answerDeployed a m).metrics.http =
      (Exchange.mark? ⟨a, answerDeployed a m⟩).elim m.http (record m.http) := by
  obtain ⟨hstatus, hmetrics⟩ := answerDeployed_of_inTime h h' m
  rw [hmetrics, Service.http_counted, Exchange.mark?, Exchange.labels?, Exchange.status?, hstatus,
    Answer.status?, Option.map_map, Option.map_map]
  rfl

/-- The service as it is deployed. What is answered around it does not count. -/
def Front.deployed : Front where
  answer := answerDeployed
  counts a := !(a.announcesTooMuch || a.timesOut)
  http_answer a m := by
    cases h : a.announcesTooMuch with
    | true => exact (answerDeployed_of_announcesTooMuch h m).2
    | false =>
      cases h' : a.timesOut with
      | true => exact (answerDeployed_of_timesOut h' m).2
      | false => exact http_answerDeployed_of_inTime h h' m

end Http
end ContactHistory
