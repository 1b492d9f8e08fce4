import ContactHistory.Text.Form

namespace ContactHistory.Http

inductive Route where
  | health
  | metrics
  | description
  | aggregate
  | contacts
  | contact
  deriving DecidableEq, Repr

namespace Route

def all : List Route := [health, metrics, description, aggregate, contacts, contact]

def template : Route → String
  | health => "/healthz"
  | metrics => "/metrics"
  | description => "/v1/openapi.json"
  | aggregate => "/v1/contacts/aggregate"
  | contacts => "/v1/subjects/:subject/contacts"
  | contact => "/v1/subjects/:subject/contacts/:counterparty"

def methods : Route → List String
  | aggregate => ["POST"]
  | _ => ["GET", "HEAD"]

/-- What the segments of a path are for those of a template, if they fit. -/
def parameters? : List (List Char) → List (List Char) → Option (List String)
  | [], [] => some []
  | t :: ts, s :: ss =>
    if t.head? = some ':' then
      if s = [] && ss = [] then none else (parameters? ts ss).map (String.ofList s :: ·)
    else if t = s then parameters? ts ss
    else none
  | _, _ => none

/-- The parameters that a path gives a route. -/
def parametersOf? (r : Route) (path : String) : Option (List String) :=
  parameters? (Text.splitAll '/' r.template.toList) (Text.splitAll '/' path.toList)

def ofPath? (path : String) : Option Route := all.find? fun r => (r.parametersOf? path).isSome

end Route

/-- What stands for the route of a path that has none. -/
def unmatched : String := "unmatched"

/-- The route of a path, as metrics name it. -/
def routeLabel (path : String) : String :=
  match Route.ofPath? path with
  | some r => r.template
  | none => unmatched

end ContactHistory.Http
