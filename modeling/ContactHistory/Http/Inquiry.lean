import ContactHistory.Filter
import ContactHistory.Text.Form
import ContactHistory.Http.MediaType
import ContactHistory.Http.Route
import ContactHistory.Json.Record
import ContactHistory.ContactPoint

namespace ContactHistory.Http

/-- A question for the history of a subject, or for one contact in it. -/
structure Inquiry where
  subject : String
  selection : Selection
  filter : Filter
  counterparty : Option String
  deriving DecidableEq

/-- The body of an error of the service. -/
def errorBody (code message : String) : String :=
  (Json.Value.object [("code", .text code), ("message", .text message)]).compact

def jsonType : String := "application/json"

/-- The response to a request that lacks a part. -/
def invalidRequest (message : String) : Response :=
  .ofText 400 jsonType (errorBody "INVALID_REQUEST" message)

/-- The largest number of bytes of a body. -/
def bodyLimit : Nat := 2 * 1024 * 1024

/-- The body of a request for an aggregation. -/
structure AggregateBody where
  subject : String
  sources : Option (List String)
  addresses : Option (List String)
  deriving DecidableEq, Repr

namespace AggregateBody

/-- The filter of a body before all of its fields are read. -/
structure FilterDraft where
  addresses : Option (Option (List String)) := none

def filterFields : List (Json.Member FilterDraft) :=
  [.of "addresses" FilterDraft.addresses (fun d a => { d with addresses := some a })
    (Json.Reader.nullable (Json.Reader.list Json.Reader.text))]

def readFilter : Json.Input → Except Json.Fault (Option (List String) × Json.Input) :=
  Json.Reader.record filterFields {} fun d => some (d.addresses.getD none)

/-- A body before all of its fields are read. -/
structure Draft where
  subject : Option String := none
  sources : Option (Option (List String)) := none
  filter : Option (Option (Option (List String))) := none

def fields : List (Json.Member Draft) :=
  [.of "subject" Draft.subject (fun d a => { d with subject := some a }) Json.Reader.text,
    .of "sources" Draft.sources (fun d a => { d with sources := some a })
      (Json.Reader.nullable (Json.Reader.list Json.Reader.text)),
    .of "filter" Draft.filter (fun d a => { d with filter := some a })
      (Json.Reader.nullable readFilter)]

def Draft.finish (d : Draft) : Option AggregateBody := do
  some ⟨← d.subject, d.sources.getD none, (d.filter.getD none).getD none⟩

def read : Json.Input → Except Json.Fault (AggregateBody × Json.Input) :=
  Json.Reader.record fields {} Draft.finish

/-- The body of a request. What stands behind its value does not count. -/
def ofRequest (limit : Nat) (r : Request) : Except Response AggregateBody :=
  if ((r.visibleHeader? "content-type").map MediaType.isJson).getD false then
    if limit < r.body.length then .error (.plain 413 "length limit exceeded")
    else
      match read ((Text.Utf8.pieces r.body).map Text.Piece.char?) with
      | .ok (b, _) => .ok b
      | .error .shape => .error (.plain 422 "the body does not have the expected shape")
      | .error _ => .error (.plain 400 "the body is not JSON")
  else .error (.plain 415 "the body must be of type application/json")

end AggregateBody

namespace Inquiry

/-- The subject in normal form, which may not be blank. -/
def requireSubject (raw : String) : Except Response String :=
  let subject := Address.normalize raw
  if subject = "" then .error (invalidRequest "subject is required") else .ok subject

/-- The filter of a list of addresses that may be missing. -/
def filterOf : Option (List String) → Filter
  | none => .unrestricted
  | some addresses => .ofAddresses addresses

/-- The texts that the parameters of a path stand for. -/
def decodeParameters (parameters : List String) : Except Response (List String) :=
  match parameters.mapM Text.Percent.decodeText? with
  | some texts => .ok texts
  | none => .error (.plain 400 "the path is not text")

/-- The pairs of a query, in which none of some names is given twice. -/
def queryForm (r : Request) (names : List String) : Except Response (List (String × String)) :=
  let form := Text.Form.pairs (r.query.getD "")
  if Text.Form.isValid form names then .ok form
  else .error (.plain 400 "a field of the query is repeated")

/-- The entries of a comma list in a form. -/
def listIn (form : List (String × String)) (name : String) : Option (List String) :=
  (Text.Form.values form name).head?.map Text.CommaList.entries

def ofBody (default : Selection) (b : AggregateBody) : Except Response Inquiry := do
  let subject ← requireSubject b.subject
  .ok ⟨subject, .ofNamesOr default b.sources, filterOf b.addresses, none⟩

/-- The inquiry of a path with a subject, and of a query. -/
def ofList (default : Selection) (subject : String) (form : List (String × String)) :
    Except Response Inquiry := do
  let subject ← requireSubject subject
  .ok ⟨subject, .ofNamesOr default (listIn form "sources"), filterOf (listIn form "addresses"),
    none⟩

/-- The inquiry of a path with a subject and a counterparty, and of a query. -/
def ofSingle (default : Selection) (subject counterparty : String) (form : List (String × String)) :
    Except Response Inquiry := do
  let subject ← requireSubject subject
  let counterparty := Address.normalize counterparty
  if counterparty = "" then .error (invalidRequest "counterparty is required")
  else
    .ok ⟨subject, .ofNamesOr default (listIn form "sources"), .ofAddresses [counterparty],
      some counterparty⟩

/-- The inquiry of a request on a route with parameters; routes that ask for no contacts have none.
The limit is the number of bytes that the body may have. -/
def ofRequest (default : Selection) (limit : Nat) (route : Route) (parameters : List String)
    (r : Request) : Except Response (Option Inquiry) :=
  match route with
  | .aggregate => do
    let body ← AggregateBody.ofRequest limit r
    some <$> ofBody default body
  | .contacts => do
    let texts ← decodeParameters parameters
    let form ← queryForm r ["sources", "addresses"]
    match texts with
    | [subject] => some <$> ofList default subject form
    | _ => .ok none
  | .contact => do
    let texts ← decodeParameters parameters
    let form ← queryForm r ["sources"]
    match texts with
    | [subject, counterparty] => some <$> ofSingle default subject counterparty form
    | _ => .ok none
  | _ => .ok none

end Inquiry
end ContactHistory.Http
