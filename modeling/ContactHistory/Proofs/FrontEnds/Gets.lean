import ContactHistory.Proofs.FrontEnds.Asked
import ContactHistory.Proofs.FrontEnds.Requests

namespace ContactHistory

open Http Text

namespace Http.Request

variable {r : Request} {subject c : String} {sources addresses : Option String}

/-- The request gets a route with some texts in its path. Its query has each of some fields once, or
lacks it. -/
structure Gets (r : Request) (route : Route) (texts : List String)
    (fields : List (String × Option String)) : Prop where
  method : r.method = "GET"
  path : Route.ofPath? r.path = some route
  decoded : r.texts route = .ok texts
  query : ∀ f ∈ fields, Form.values (Form.pairs (r.query.getD "")) f.1 = f.2.toList

theorem Gets.takes {route : Route} {texts : List String} {fields : List (String × Option String)}
    (h : r.Gets route texts fields) (hroute : route.methods.contains "GET" = true) :
    r.Takes route := by
  refine ⟨h.path, ?_⟩
  rw [h.method]
  exact hroute

theorem listIn_of_values {form : List (String × String)} {name : String} {value : Option String}
    (h : Form.values form name = value.toList) :
    Inquiry.listIn form name = value.map CommaList.entries := by
  rw [Inquiry.listIn, h]
  cases value <;> rfl

theorem length_values_le {form : List (String × String)} {name : String} {value : Option String}
    (h : Form.values form name = value.toList) : (Form.values form name).length ≤ 1 := by
  rw [h]
  cases value <;> simp

/-- Fields that are told are not repeated, so the query has a form. -/
theorem Gets.queryForm {route : Route} {texts : List String}
    {fields : List (String × Option String)} (h : r.Gets route texts fields) :
    Inquiry.queryForm r (fields.map Prod.fst) = .ok (Form.pairs (r.query.getD "")) := by
  apply if_pos
  rw [Form.isValid, List.all_map, List.all_eq_true]
  exact fun f hf => decide_eq_true (length_values_le (h.query f hf))

/-- A request for the list puts the question of its fields. -/
theorem Gets.puts_list
    (h : r.Gets .contacts [subject] [("sources", sources), ("addresses", addresses)])
    (limit : Nat) :
    r.Puts limit ⟨subject, (sources.map CommaList.entries).getD [],
      (addresses.map CommaList.entries).getD []⟩ none := by
  rw [← listIn_of_values (h.query ("sources", sources) (by simp)),
    ← listIn_of_values (h.query ("addresses", addresses) (by simp))]
  exact .list (h.takes (by decide)) h.decoded h.queryForm

/-- A request for one contact puts the question of its counterparty. -/
theorem Gets.puts_single (h : r.Gets .contact [subject, c] [("sources", sources)]) (limit : Nat) :
    r.Puts limit ⟨subject, (sources.map CommaList.entries).getD [], [c]⟩ (some c) := by
  rw [← listIn_of_values (h.query ("sources", sources) (by simp))]
  exact .single (h.takes (by decide)) h.decoded h.queryForm

/-- The path that names a subject and a counterparty. -/
def contactPath (subject c : String) : String :=
  Question.path ⟨subject, [], []⟩ ++ "/" ++ Percent.encode c

theorem toList_contactPath (subject c : String) :
    (contactPath subject c).toList =
      (Question.path ⟨subject, [], []⟩).toList ++ '/' :: (Percent.encode c).toList := by
  simp [contactPath]

theorem splitAll_contactPath (subject c : String) :
    splitAll '/' (contactPath subject c).toList =
      [[], "v1".toList, "subjects".toList, (Percent.encode subject).toList, "contacts".toList,
        (Percent.encode c).toList] := by
  have hlist : (contactPath subject c).toList =
      [] ++ '/' :: ("v1".toList ++ '/' :: ("subjects".toList ++ '/' ::
        ((Percent.encode subject).toList ++ '/' :: ("contacts".toList ++
          '/' :: (Percent.encode c).toList)))) := by
    simp [toList_contactPath, Question.toList_path]
  have hsubject : '/' ∉ (Percent.encode subject).toList := Percent.not_mem_encode (by decide)
  have hc : '/' ∉ (Percent.encode c).toList := Percent.not_mem_encode (by decide)
  rw [hlist, splitAll_append (by decide), splitAll_append (by decide), splitAll_append (by decide),
    splitAll_append hsubject, splitAll_append (by decide), splitAll_of_not_mem hc]

theorem parametersOf?_contactPath (subject : String) (hc : c ≠ "") :
    Route.contact.parametersOf? (contactPath subject c) =
      some [Percent.encode subject, Percent.encode c] := by
  have hne : (Percent.encode c).toList ≠ [] := by
    intro hnil
    have hsame : Percent.encode c = Percent.encode "" := String.toList_eq_nil_iff.mp hnil
    have hdecoded := Percent.decodeText?_encode c
    rw [hsame, Percent.decodeText?_encode] at hdecoded
    exact hc (Option.some.inj hdecoded).symm
  rw [Route.parametersOf?, splitAll_contactPath]
  simp [Route.template, splitAll, Route.parameters?, hne]

theorem ofPath?_contactPath (subject : String) (hc : c ≠ "") :
    Route.ofPath? (contactPath subject c) = some .contact := by
  apply Route.ofPath?_of_skipped [.health, .metrics, .description, .aggregate, .contacts] [] rfl
  · intro r hr
    rw [Route.parametersOf?, splitAll_contactPath]
    simp only [List.mem_cons, List.not_mem_nil, or_false] at hr
    rcases hr with rfl | rfl | rfl | rfl | rfl <;>
      simp [Route.template, splitAll, Route.parameters?]
  · rw [parametersOf?_contactPath subject hc]
    rfl

theorem isPathChar_contactPath {d : Char} (h : d ∈ (contactPath subject c).toList) :
    Target.isPathChar d = true := by
  rw [toList_contactPath, List.mem_append, List.mem_cons] at h
  rcases h with h | rfl | h
  · exact Question.isPathChar_path h
  · decide
  · exact Target.isPathChar_of_isSafe (Percent.isSafe_of_mem_encode h)

variable {form headers : List (String × String)} {body : List UInt8}
  {fields : List (String × Option String)}

/-- A request for the list of any subject can be written. -/
theorem gets_contacts
    (h : Request.ofParts? "GET"
      (Question.target (Question.path ⟨subject, [], []⟩) (Question.query? form)) headers body =
        some r)
    (hfields : ∀ f ∈ fields, Form.values form f.1 = f.2.toList) :
    r.Gets .contacts [subject] fields := by
  let q : Question := ⟨subject, [], []⟩
  obtain ⟨hmethod, hpath, hquery⟩ :=
    Question.parts_of_target q.head?_path (fun d hd => Question.isPathChar_path hd) h
  refine ⟨hmethod, ?_, ?_, ?_⟩
  · rw [hpath]
    exact q.ofPath?_path
  · have hparameters : Route.contacts.parametersOf? r.path = some [Percent.encode subject] := by
      rw [hpath]
      exact q.parametersOf?_path
    rw [texts, hparameters]
    simp [Inquiry.decodeParameters, Percent.decodeText?_encode]
  · rw [hquery, Question.pairs_query?]
    exact hfields

theorem gets_contact (hc : c ≠ "")
    (h : Request.ofParts? "GET"
      (Question.target (contactPath subject c) (Question.query? form)) headers body = some r)
    (hfields : ∀ f ∈ fields, Form.values form f.1 = f.2.toList) :
    r.Gets .contact [subject, c] fields := by
  have hslash : (contactPath subject c).toList.head? = some '/' := by
    rw [toList_contactPath]
    simp [Question.toList_path]
  obtain ⟨hmethod, hpath, hquery⟩ :=
    Question.parts_of_target hslash (fun d hd => isPathChar_contactPath hd) h
  refine ⟨hmethod, ?_, ?_, ?_⟩
  · rw [hpath]
    exact ofPath?_contactPath subject hc
  · rw [texts, hpath, parametersOf?_contactPath subject hc]
    simp [Inquiry.decodeParameters, Percent.decodeText?_encode]
  · rw [hquery, Question.pairs_query?]
    exact hfields

end Http.Request

end ContactHistory
