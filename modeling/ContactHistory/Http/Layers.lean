import ContactHistory.Http.Service

namespace ContactHistory.Http

/-- The name of the field that holds the id of a request and of its response. -/
def requestIdName : String := "x-request-id"

/-- The number of bytes that a request announces for its body. -/
def announcedLength? (r : Request) : Option Nat :=
  (r.visibleHeader? "content-length").bind fun s =>
    (Text.Decimal.readNat (UInt64.size - 1) s.toList).toOption

/-- The response to a request that announces too large a body. -/
def bodyTooLarge : Response := .plain 413 "length limit exceeded"

/-- The nanoseconds that a request may take. -/
def requestTimeout : Nat := 30000000000

/-- The response to a request that took too long. -/
def timedOut : Response := .empty 408

namespace Service

/-- The answer to a request that is counted if it is answered. -/
def counted (s : Service) (clocks : Clocks) (limit : Nat) (r : Request) (m : Metrics) : Answer :=
  let a := s.answer clocks limit r m
  match a.response with
  | none => a
  | some response =>
    let m := a.metrics.addRequest serviceName r.method (routeLabel r.path) response.status
      clocks.requestNanos
    { a with metrics := m }

/-- The answer to a request whose time is over. Its run is given up and does not count, and of the
sources that it asked only those count that had ended in time. -/
def givenUp (clocks : Clocks) (run : Option Run) (m : Metrics) : Answer where
  response := some timedOut
  run := none
  metrics := countSources m clocks.sourceNanos <|
    ((run.map Run.finished).getD []).filter fun p =>
      clocks.leadNanos + clocks.sourceNanos p ≤ requestTimeout

/-- The answer within the limits. A request that announces too much is refused, and one that is not
answered in time is given up. -/
def limited (s : Service) (clocks : Clocks) (r : Request) (m : Metrics) : Answer :=
  let announced := (announcedLength? r).getD bodyLimit
  if bodyLimit < announced then ⟨some bodyTooLarge, none, m⟩
  else
    let a := s.counted clocks announced r m
    if a.response.isNone || requestTimeout < clocks.requestNanos then givenUp clocks a.run m else a

/-- The answer of the deployed service. The id of the request is sent back, or a fresh one if it has
none. -/
def deployed (s : Service) (clocks : Clocks) (freshId : String) (r : Request) (m : Metrics) :
    Answer :=
  let id := (r.header? requestIdName).getD freshId
  let a := s.limited clocks r m
  { a with response := a.response.map (·.addHeader requestIdName id) }

end Service
end ContactHistory.Http
