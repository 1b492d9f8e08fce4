import ContactHistory.CommandLine.Run
import ContactHistory.Http.Target
import ContactHistory.Proofs.FormRoundTrip
import ContactHistory.Http.Inquiry

namespace ContactHistory

open Http Json Text

theorem Http.Inquiry.filterOf_eq (addresses : Option (List String)) :
    Inquiry.filterOf addresses = .ofAddresses (addresses.getD []) := by
  cases addresses <;> rfl

/-- A question for the contacts of a subject: the names of the sources to ask, and the addresses of
the counterparties that count, both in any spelling. -/
structure Question where
  subject : String
  sources : List String
  addresses : List String

namespace Question

/-- A question that comma lists can hold, and that names a source if it gives any names. -/
structure Joinable (q : Question) : Prop where
  sources : ∀ s ∈ q.sources, ',' ∉ s.toList
  addresses : ∀ a ∈ q.addresses, ',' ∉ a.toList
  named : q.sources = [] ∨ ∃ s ∈ q.sources, trimmed s ≠ ""

/-- What a question means to a service with a default selection. -/
def inquiry (q : Question) (default : Selection) : Inquiry :=
  ⟨Address.normalize q.subject, .ofNamesOr default (some q.sources), .ofAddresses q.addresses, none⟩

/-- What a service makes of a question; the subject may not be blank. -/
def toInquiry (q : Question) (default : Selection) : Except Response Inquiry :=
  if Address.normalize q.subject = "" then .error (invalidRequest "subject is required")
  else .ok (q.inquiry default)

theorem requireSubject_bind (q : Question) {default selection : Selection} {filter : Filter}
    (hselection : selection = .ofNamesOr default (some q.sources))
    (hfilter : filter = .ofAddresses q.addresses) :
    ((Inquiry.requireSubject q.subject).bind fun subject =>
      .ok ⟨subject, selection, filter, none⟩) = q.toInquiry default := by
  unfold Inquiry.requireSubject toInquiry
  rw [hselection, hfilter]
  split
  · next h =>
    simp only [h]
    rfl
  · next h =>
    simp only [h]
    rfl

/-- The members of an object for a list under a name. For an empty list there may be null or no
member at all. -/
inductive ListMembers (name : String) : List String → List (String × Value) → Prop
  | given (xs : List String) : ListMembers name xs [(name, .ofTexts xs)]
  | null : ListMembers name [] [(name, .null)]
  | absent : ListMembers name [] []

/-- The members of a body for the addresses. -/
inductive FilterMembers : List String → List (String × Value) → Prop
  | given {xs : List String} {ms : List (String × Value)} (h : ListMembers "addresses" xs ms) :
      FilterMembers xs [("filter", .object ms)]
  | null : FilterMembers [] [("filter", .null)]
  | absent : FilterMembers [] []

/-- The values that ask a question in a body. The members may stand in any order. -/
inductive Body (q : Question) : Value → Prop
  | intro {ss fs ms : List (String × Value)} (sources : ListMembers "sources" q.sources ss)
      (addresses : FilterMembers q.addresses fs)
      (order : (("subject", .text q.subject) :: (ss ++ fs)).Perm ms) : Body q (.object ms)

/-- The target of the requests with a body. -/
def bodyTarget : String := "/v1/contacts/aggregate"

/-- The request asks the question in its body, which is JSON in some layout. -/
def Posts (q : Question) (r : Request) : Prop :=
  ∃ headers v l, q.Body v ∧
    Request.ofParts? "POST" bodyTarget headers (Utf8.encode (String.ofList (v.render l))) = some r ∧
    (r.visibleHeader? "content-type").map MediaType.isJson = some true

/-- The fields of a query for a list under a name. An empty list may be left out. -/
inductive ListFields (name : String) : List String → List (String × String) → Prop
  | given (xs : List String) : ListFields name xs [(name, CommaList.join xs)]
  | absent : ListFields name [] []

def path (q : Question) : String := "/v1/subjects/" ++ Percent.encode q.subject ++ "/contacts"

/-- The query of a form; there is none for an empty form. -/
def query? (form : List (String × String)) : Option String :=
  if form = [] then none else some (Form.write form)

def target (path : String) (query : Option String) : String :=
  match query with
  | none => path
  | some s => path ++ "?" ++ s

/-- The request asks the question in its target. -/
def Asks (q : Question) (r : Request) : Prop :=
  ∃ headers body ss as, ListFields "sources" q.sources ss ∧ ListFields "addresses" q.addresses as ∧
    Request.ofParts? "GET" (target q.path (query? (ss ++ as))) headers body = some r

/-- A switch with its value, in one argument. -/
def argument (name value : String) : String := "--" ++ name ++ "=" ++ value

def arguments (q : Question) : List String :=
  "aggregate" :: argument "subject" q.subject ::
    (q.sources.map (argument "source") ++ q.addresses.map (argument "address"))

def options (q : Question) : CommandLine.AggregateOptions :=
  ⟨q.subject, q.sources, q.addresses, false⟩

end Question
end ContactHistory
