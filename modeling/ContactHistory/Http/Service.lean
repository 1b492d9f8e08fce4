import ContactHistory.Database.Basic
import ContactHistory.Http.Description
import ContactHistory.Http.Inquiry
import ContactHistory.Metrics.Exposition
import ContactHistory.Payload

namespace ContactHistory.Http

structure Service where
  aggregator : Aggregator
  defaultSelection : Selection
  ready : Except QueryError Unit

/-- The readings of clocks that belong to a request: the time of the call, and the nanoseconds until
sources were asked, that each source took, and that the whole request took. -/
structure Clocks where
  now : Instant
  leadNanos : Nat
  sourceNanos : ContactPoint → Nat
  requestNanos : Nat

def Clocks.still (now : Instant) : Clocks := ⟨now, 0, fun _ => 0, 0⟩

/-- What a request led to: its response if it has one, the aggregation that it ran, and the metrics
afterwards. -/
structure Answer where
  response : Option Response
  run : Option Run
  metrics : Metrics

def serviceName : String := "cb-contacts"

def aggregationFailed : Response :=
  .ofText 500 jsonType (errorBody "AGGREGATION_FAILED" "contacts could not be loaded")

def contactNotFound : Response :=
  .ofText 404 jsonType (errorBody "NOT_FOUND" "contact not found")

def jsonResponse (status : Nat) (v : Json.Value) : Response := .ofText status jsonType v.compact

namespace Inquiry

/-- The response to an inquiry once its history is loaded. -/
def answerWith (i : Inquiry) (h : History) : Response :=
  match i.counterparty with
  | none => jsonResponse 200 (Payload.HistoryRecord.ofHistory h).toJson
  | some c =>
    match h.find? c with
    | some contact => jsonResponse 200 (Payload.ContactRecord.ofContact contact).toJson
    | none => contactNotFound

/-- The response to an inquiry whose aggregation has ended. -/
def respond (i : Inquiry) : Outcome → Option Response
  | .stalled => none
  | .failed _ => some aggregationFailed
  | .loaded h => some (i.answerWith h)

end Inquiry

/-- The metrics after the sources of some points have ended. -/
def countSources (m : Metrics) (nanos : ContactPoint → Nat) (points : List ContactPoint) :
    Metrics :=
  points.foldl (fun m p => m.addSource serviceName p.name (nanos p)) m

theorem countSources_eq (m : Metrics) (nanos : ContactPoint → Nat) (points : List ContactPoint) :
    countSources m nanos points =
      { m with
        sourceSeconds := points.foldl (fun s p => s.update [serviceName, p.name]
          (.empty Metrics.sourceBounds) (.observe Metrics.sourceBounds (nanos p)))
          m.sourceSeconds } := by
  induction points generalizing m with
  | nil => rfl
  | cons p points ih => exact ih _

/-- The metrics after a run: its sources count as they end, and the run counts if it ends. -/
def countRun (m : Metrics) (nanos : ContactPoint → Nat) (r : Run) : Metrics :=
  let m := countSources m nanos r.finished
  match r.outcome with
  | .stalled => m
  | .failed _ => m.addAggregation serviceName Metrics.Result.failure.name
  | .loaded _ => m.addAggregation serviceName Metrics.Result.success.name

def healthResponse : Except QueryError Unit → Response
  | .ok _ => jsonResponse 200 (.object [("status", .text "ok")])
  | .error _ => jsonResponse 503 (.object [("status", .text "unavailable")])

def methodNotAllowed (r : Route) : Response :=
  (Response.empty 405).addHeader "allow" (",".intercalate r.methods)

namespace Service

def runInquiry (s : Service) (now : Instant) (i : Inquiry) : Run :=
  s.aggregator.run i.subject i.selection i.filter now

/-- The answer to a request on a route whose method it allows. -/
def answerRoute (s : Service) (clocks : Clocks) (limit : Nat) (route : Route)
    (parameters : List String) (r : Request) (m : Metrics) : Answer :=
  match route with
  | .health => ⟨some (healthResponse s.ready), none, m⟩
  | .metrics =>
    let m := m.setUp serviceName
    ⟨some (.ofText 200 Metrics.contentType m.text), none, m⟩
  | .description => ⟨some (jsonResponse 200 Description.document), none, m⟩
  | route =>
    match Inquiry.ofRequest s.defaultSelection limit route parameters r with
    | .error response => ⟨some response, none, m⟩
    | .ok none => ⟨some (.empty 404), none, m⟩
    | .ok (some i) =>
      let run := s.runInquiry clocks.now i
      ⟨i.respond run.outcome, some run, countRun m clocks.sourceNanos run⟩

/-- The answer to a request. A request for the head gets the response without its body. -/
def answer (s : Service) (clocks : Clocks) (limit : Nat) (r : Request) (m : Metrics) : Answer :=
  match Route.ofPath? r.path with
  | none => ⟨some (.empty 404), none, m⟩
  | some route =>
    if route.methods.contains r.method then
      let a := s.answerRoute clocks limit route ((route.parametersOf? r.path).getD []) r m
      if r.method = "HEAD" then { a with response := a.response.map Response.withoutBody } else a
    else ⟨some (methodNotAllowed route), none, m⟩

end Service
end ContactHistory.Http
