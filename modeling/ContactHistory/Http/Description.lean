import ContactHistory.Http.Route
import ContactHistory.Json.Value

namespace ContactHistory.Http.Description

open ContactHistory.Json

def string : List (String × Value) := [("type", .text "string")]

def strings : List (String × Value) := [("type", .text "array"), ("items", .object string)]

def nullable (shape : List (String × Value)) : List (String × Value) :=
  shape ++ [("nullable", .bool true)]

def described (text : String) (shape : List (String × Value)) : List (String × Value) :=
  shape ++ [("description", .text text)]

def reference (name : String) : List (String × Value) :=
  [("$ref", .text ("#/components/schemas/" ++ name))]

def nullableReference (name : String) : List (String × Value) :=
  nullable [("allOf", .list [.object (reference name)])]

def listOf (name : String) : List (String × Value) :=
  [("type", .text "array"), ("items", .object (reference name))]

/-- An object with some members, of which those of a list have to be there. -/
def shape (name : String) (required : List String)
    (members : List (String × List (String × Value))) : String × Value :=
  (name, .object ([("type", .text "object")] ++
    (if required.isEmpty then [] else [("required", .ofTexts required)]) ++
    [("properties", .object (members.map fun (k, v) => (k, .object v)))]))

def sourcesText : String :=
  "Contact point names; unknown names are ignored. Omitted means the service default."

def shapes : List (String × Value) :=
  [shape "HealthStatus" ["status"] [("status", string)],
    shape "AggregateRequest" ["subject"]
      [("subject", string),
        ("sources", nullable (described sourcesText strings)),
        ("filter", nullableReference "FilterInput")],
    shape "FilterInput" [] [("addresses", nullable strings)],
    shape "ContactsPayload" ["lastUpdatedAt", "contacts"]
      [("lastUpdatedAt", described "Epoch millis of the newest interaction, or \x60-1\x60." string),
        ("contacts", listOf "ContactPayload")],
    shape "ContactPayload" ["contactAddress", "lastContactAt", "metadata"]
      [("contactAddress", string), ("lastContactAt", string),
        ("metadata", listOf "ContactPointPayload"),
        ("contactAddressProfile", nullableReference "ProfilePayload")],
    shape "ContactPointPayload" ["name", "directions", "values", "timestamps"]
      [("name", string), ("directions", strings), ("values", strings), ("timestamps", strings)],
    shape "ProfilePayload" ["id", "circlesAddress", "displayName"]
      [("id", [("type", .text "integer"), ("format", .text "int64")]), ("circlesAddress", string),
        ("displayName", string), ("avatarUrl", nullable string)]]

def content (name : String) : String × Value :=
  ("content", .object [("application/json", .object [("schema", .object (reference name))])])

/-- A response with a status, and the shape of its body if it is described. -/
def response (status description : String) (body : Option String) : String × Value :=
  (status, .object (("description", .text description) :: body.toList.map content))

def pathParameter (name description : String) : Value :=
  .object [("name", .text name), ("in", .text "path"), ("description", .text description),
    ("required", .bool true), ("schema", .object string)]

def queryParameter (name description : String) : Value :=
  .object [("name", .text name), ("in", .text "query"), ("description", .text description),
    ("required", .bool false), ("schema", .object (nullable string))]

def subjectParameter : Value := pathParameter "subject" "Subject address"

def sourcesParameter : Value := queryParameter "sources" "Comma separated contact point names."

def addressesParameter : Value :=
  queryParameter "addresses" "Comma separated counterparty addresses."

/-- An operation of a group under a name, with members of its own in front of its responses. -/
def operation (group name : String) (members responses : List (String × Value)) : Value :=
  .object ([("tags", .ofTexts [group]), ("operationId", .text name)] ++ members ++
    [("responses", .object responses)])

/-- The failure that every question for contacts may end with. -/
def sourceFailed : String × Value := response "500" "A contact source failed" none

def paths : List (String × Value) :=
  [("/healthz", .object [("get", operation "health" "healthz" []
      [response "200" "Ready" (some "HealthStatus"),
        response "503" "A database is unreachable" (some "HealthStatus")])]),
    ("/metrics", .object [("get", operation "health" "metrics_endpoint" []
      [response "200" "Prometheus metrics" none])]),
    ("/v1/contacts/aggregate", .object [("post", operation "contacts" "aggregate_contacts"
      [("requestBody", .object [content "AggregateRequest", ("required", .bool true)])]
      [response "200" "Aggregated contacts" (some "ContactsPayload"),
        response "400" "Missing subject" none, sourceFailed])]),
    ("/v1/subjects/\x7bsubject\x7d/contacts", .object [("get", operation "contacts" "list_contacts"
      [("parameters", .list [subjectParameter, sourcesParameter, addressesParameter])]
      [response "200" "Aggregated contacts" (some "ContactsPayload"), sourceFailed])]),
    ("/v1/subjects/\x7bsubject\x7d/contacts/\x7bcounterparty\x7d",
      .object [("get", operation "contacts" "get_contact"
        [("parameters", .list [subjectParameter, pathParameter "counterparty" "Contact address",
          sourcesParameter])]
        [response "200" "The contact" (some "ContactPayload"),
          response "404" "No interaction and no profile" none, sourceFailed])])]

def group (name description : String) : Value :=
  .object [("name", .text name), ("description", .text description)]

def document : Value :=
  .object [("openapi", .text "3.0.3"),
    ("info", .object [("title", .text "cb-contacts"), ("description", .text ""),
      ("license", .object [("name", .text "MIT")]), ("version", .text "0.1.0")]),
    ("paths", .object paths),
    ("components", .object [("schemas", .object shapes)]),
    ("tags", .list [group "health" "Service health", group "contacts" "Contact aggregation"])]

end ContactHistory.Http.Description
