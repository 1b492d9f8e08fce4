import ContactHistory.Proofs.AddressFilters
import ContactHistory.Proofs.Answers
import ContactHistory.Proofs.FrontEnds.Question
import Mathlib.Data.List.TakeWhile

namespace ContactHistory

open Http Text

namespace Http.Target

theorem isPathChar_of_isSafe {c : Char} (h : Percent.isSafe c = true) : isPathChar c = true := by
  simp only [Percent.isSafe, isPathChar, Bool.or_eq_true, Bool.and_eq_true, decide_eq_true_eq]
    at h ⊢
  omega

theorem isQueryChar_of_isSafe {c : Char} (h : Percent.isSafe c = true) : isQueryChar c = true := by
  simp only [Percent.isSafe, isQueryChar, Bool.or_eq_true, Bool.and_eq_true, decide_eq_true_eq]
    at h ⊢
  omega

/-- Neither a question mark nor a number sign stands in a path. -/
theorem path_goes_on {path : List Char} (h : ∀ c ∈ path, isPathChar c = true) :
    ∀ c ∈ path, (decide (c ≠ '?') && decide (c ≠ '#')) = true := by
  intro c hc
  have hpath := h c hc
  rw [Bool.and_eq_true, decide_eq_true_eq, decide_eq_true_eq]
  constructor <;> (rintro rfl; revert hpath; decide)

theorem ofPath?_path {path : List Char} (hne : path ≠ []) (h : ∀ c ∈ path, isPathChar c = true) :
    ofPath? path = some ⟨String.ofList path, none⟩ := by
  have htake : path.takeWhile (fun c => decide (c ≠ '?') && decide (c ≠ '#')) = path :=
    List.takeWhile_eq_self_iff.mpr (path_goes_on h)
  have hall : path.all isPathChar = true := List.all_eq_true.mpr h
  unfold ofPath?
  simp only [htake, hall, List.drop_length, Bool.not_true, Bool.false_eq_true, if_false,
    List.isEmpty_eq_false_iff.mpr hne]

theorem ofPath?_query {path query : List Char} (hne : path ≠ [])
    (h : ∀ c ∈ path, isPathChar c = true) (h' : ∀ c ∈ query, isQueryChar c = true) :
    ofPath? (path ++ '?' :: query) = some ⟨String.ofList path, some (String.ofList query)⟩ := by
  have htake : (path ++ '?' :: query).takeWhile (fun c => decide (c ≠ '?') && decide (c ≠ '#')) =
      path := by
    rw [List.takeWhile_append_of_pos (path_goes_on h)]
    simp
  have hall : path.all isPathChar = true := List.all_eq_true.mpr h
  have hquery : query.takeWhile (fun c => decide (c ≠ '#')) = query := by
    apply List.takeWhile_eq_self_iff.mpr
    intro c hc
    have hc' := h' c hc
    rw [decide_eq_true_eq]
    rintro rfl
    revert hc'
    decide
  have hall' : query.all isQueryChar = true := List.all_eq_true.mpr h'
  unfold ofPath?
  simp only [htake, hall, hquery, hall', List.drop_left, Bool.not_true, Bool.false_eq_true,
    if_false, if_true, List.isEmpty_eq_false_iff.mpr hne]

end Http.Target

/-- A path that fits a route has it, if the routes that are tried before do not fit. -/
theorem Http.Route.ofPath?_of_skipped {path : String} (front rest : List Route) {route : Route}
    (hall : Route.all = front ++ route :: rest)
    (hskipped : ∀ r ∈ front, r.parametersOf? path = none)
    (h : (route.parametersOf? path).isSome = true) : Route.ofPath? path = some route := by
  have hnone : front.find? (fun r => (r.parametersOf? path).isSome) = none := by
    rw [List.find?_eq_none]
    intro r hr
    rw [hskipped r hr]
    simp
  rw [Route.ofPath?, hall, List.find?_append, hnone, Option.none_or, List.find?_cons, h]

namespace Question

variable {q : Question}

theorem toList_path (q : Question) :
    q.path.toList =
      "/v1/subjects/".toList ++ ((Percent.encode q.subject).toList ++ "/contacts".toList) := by
  simp [path]

theorem isPathChar_path {c : Char} (h : c ∈ q.path.toList) : Target.isPathChar c = true := by
  have hstart : "/v1/subjects/".toList.all Target.isPathChar = true := by decide
  have hend : "/contacts".toList.all Target.isPathChar = true := by decide
  rw [toList_path, List.mem_append, List.mem_append] at h
  rcases h with h | h | h
  · exact List.all_eq_true.mp hstart c h
  · exact Target.isPathChar_of_isSafe (Percent.isSafe_of_mem_encode h)
  · exact List.all_eq_true.mp hend c h

theorem isQueryChar_write {form : List (String × String)} {c : Char}
    (h : c ∈ (Form.write form).toList) : Target.isQueryChar c = true := by
  rcases Form.mem_write h with h | rfl | rfl
  · exact Target.isQueryChar_of_isSafe h
  · decide
  · decide

/-- A target is read as its path and its query, if it is not too long. -/
theorem read?_target {path : String} (hslash : path.toList.head? = some '/')
    (hpath : ∀ c ∈ path.toList, Target.isPathChar c = true) (form : List (String × String)) :
    Target.read? (target path (query? form)) =
      if Target.maxBytes < (target path (query? form)).utf8ByteSize then none
      else some ⟨path, query? form⟩ := by
  obtain ⟨tail, hcons⟩ : ∃ tail, path.toList = '/' :: tail := List.head?_eq_some_iff.mp hslash
  have hne : path.toList ≠ [] := by simp [hcons]
  have hofPath : Target.ofPath? (target path (query? form)).toList =
      some ⟨path, query? form⟩ := by
    cases hquery : query? form with
    | none =>
      have hplain : target path none = path := rfl
      rw [hplain, Target.ofPath?_path hne hpath, String.ofList_toList]
    | some s =>
      have hs : ∀ c ∈ s.toList, Target.isQueryChar c = true := by
        unfold query? at hquery
        split at hquery
        · cases hquery
        · cases hquery
          exact fun c hc => isQueryChar_write hc
      have hlist : (target path (some s)).toList = path.toList ++ '?' :: s.toList := by
        simp [target]
      rw [hlist, Target.ofPath?_query hne hpath hs, String.ofList_toList, String.ofList_toList]
  obtain ⟨cs, hcs⟩ : ∃ cs, (target path (query? form)).toList = '/' :: cs := by
    cases query? form <;> exact ⟨_, by simp [target, hcons]; rfl⟩
  unfold Target.read?
  split
  · rfl
  · rw [hcs] at hofPath ⊢
    exact hofPath

/-- A request that is sent with a target has the path and the query of the target. -/
theorem parts_of_target {path : String} (hslash : path.toList.head? = some '/')
    (hpath : ∀ c ∈ path.toList, Target.isPathChar c = true) {method : String}
    {form headers : List (String × String)} {body : List UInt8} {r : Request}
    (h : Request.ofParts? method (target path (query? form)) headers body = some r) :
    r.method = method ∧ r.path = path ∧ r.query = query? form := by
  unfold Request.ofParts? at h
  obtain ⟨t, ht, h⟩ := Option.bind_eq_some_iff.mp h
  rw [read?_target hslash hpath] at ht
  split at ht
  · cases ht
  · cases ht
    split at h
    · cases h
      exact ⟨rfl, rfl, rfl⟩
    · cases h

theorem head?_path (q : Question) : q.path.toList.head? = some '/' := by simp [toList_path]

theorem Asks.parts {r : Request} (h : q.Asks r) :
    r.method = "GET" ∧ r.path = q.path ∧
      ∃ ss as, ListFields "sources" q.sources ss ∧ ListFields "addresses" q.addresses as ∧
        r.query = query? (ss ++ as) := by
  obtain ⟨headers, body, ss, as, hsources, haddresses, hparts⟩ := h
  obtain ⟨hmethod, hpath, hquery⟩ :=
    parts_of_target q.head?_path (fun c hc => isPathChar_path hc) hparts
  exact ⟨hmethod, hpath, ss, as, hsources, haddresses, hquery⟩

/-! ### The path -/

theorem splitAll_path (q : Question) :
    splitAll '/' q.path.toList =
      [[], "v1".toList, "subjects".toList, (Percent.encode q.subject).toList,
        "contacts".toList] := by
  have hlist : q.path.toList =
      [] ++ '/' :: ("v1".toList ++ '/' :: ("subjects".toList ++
        '/' :: ((Percent.encode q.subject).toList ++ '/' :: "contacts".toList))) := by
    simp [toList_path]
  have hsubject : '/' ∉ (Percent.encode q.subject).toList := Percent.not_mem_encode (by decide)
  rw [hlist, splitAll_append (by decide), splitAll_append (by decide), splitAll_append (by decide),
    splitAll_append hsubject, splitAll_of_not_mem (by decide)]

theorem parametersOf?_path (q : Question) :
    Route.contacts.parametersOf? q.path = some [Percent.encode q.subject] := by
  rw [Route.parametersOf?, splitAll_path]
  simp [Route.template, splitAll, Route.parameters?]

theorem ofPath?_path (q : Question) : Route.ofPath? q.path = some .contacts := by
  apply Route.ofPath?_of_skipped [.health, .metrics, .description, .aggregate] [.contact] rfl
  · -- They differ from the path in the number of segments or in a word.
    intro r hr
    rw [Route.parametersOf?, splitAll_path]
    simp only [List.mem_cons, List.not_mem_nil, or_false] at hr
    rcases hr with rfl | rfl | rfl | rfl <;> simp [Route.template, splitAll, Route.parameters?]
  · rw [parametersOf?_path]
    rfl

/-! ### The query -/

theorem pairs_query? (form : List (String × String)) :
    Form.pairs ((query? form).getD "") = form := by
  unfold query?
  split
  · next h =>
    rw [h]
    rfl
  · exact Form.pairs_write form

/-- The list of a field in a form: what the list has that is not blank. -/
theorem ListFields.listIn {name : String} {xs : List String} {fs : List (String × String)}
    (h : ListFields name xs fs) (hcomma : ∀ x ∈ xs, ',' ∉ x.toList) :
    (Inquiry.listIn fs name).getD [] = CommaList.present xs := by
  cases h with
  | given =>
    rw [← CommaList.entries_join hcomma]
    simp [Inquiry.listIn, Form.values]
  | absent => rfl

theorem ListFields.values_of_ne {name other : String} {xs : List String}
    {fs : List (String × String)} (h : ListFields name xs fs) (hne : name ≠ other) :
    Form.values fs other = [] := by
  cases h with
  | given => simp [Form.values, hne]
  | absent => rfl

theorem ListFields.length_values_le {name : String} {xs : List String}
    {fs : List (String × String)} (h : ListFields name xs fs) :
    (Form.values fs name).length ≤ 1 := by
  cases h <;> simp [Form.values]

theorem values_append (fs gs : List (String × String)) (name : String) :
    Form.values (fs ++ gs) name = Form.values fs name ++ Form.values gs name := by
  simp [Form.values]

/-- A question in a target asks what the service makes of it. -/
theorem Asks.inquire {r : Request} (h : q.Asks r) (hq : q.Joinable) (s : Service) (limit : Nat) :
    s.inquire limit r = some <$> q.toInquiry s.defaultSelection := by
  obtain ⟨hmethod, hpath, ss, as, hss, has, hquery⟩ := h.parts
  have hroute : Route.ofPath? r.path = some .contacts := by
    rw [hpath]
    exact ofPath?_path q
  have hallowed : Route.contacts.methods.contains r.method = true := by
    rw [hmethod]
    decide
  have hparameters : (Route.contacts.parametersOf? r.path).getD [] =
      [Percent.encode q.subject] := by
    rw [hpath, parametersOf?_path]
    rfl
  have htexts : Inquiry.decodeParameters [Percent.encode q.subject] = .ok [q.subject] := by
    unfold Inquiry.decodeParameters
    simp [Percent.decodeText?_encode]
  have hsources : Form.values (ss ++ as) "sources" = Form.values ss "sources" := by
    rw [values_append, has.values_of_ne (by decide), List.append_nil]
  have haddresses : Form.values (ss ++ as) "addresses" = Form.values as "addresses" := by
    rw [values_append, hss.values_of_ne (by decide), List.nil_append]
  have hvalid : Form.isValid (ss ++ as) ["sources", "addresses"] = true := by
    simp [Form.isValid, hsources, haddresses, hss.length_values_le, has.length_values_le]
  have hform : Inquiry.queryForm r ["sources", "addresses"] = .ok (ss ++ as) := by
    unfold Inquiry.queryForm
    rw [hquery, pairs_query?]
    exact if_pos hvalid
  have hselection : Selection.ofNamesOr s.defaultSelection (Inquiry.listIn (ss ++ as) "sources") =
      .ofNamesOr s.defaultSelection (some q.sources) := by
    rw [Selection.ofNamesOr_getD, Inquiry.listIn, hsources, ← Inquiry.listIn,
      hss.listIn hq.sources, Selection.ofNamesOr_present _ hq.named]
  have hfilter : Inquiry.filterOf (Inquiry.listIn (ss ++ as) "addresses") =
      .ofAddresses q.addresses := by
    rw [Inquiry.filterOf_eq, Inquiry.listIn, haddresses, ← Inquiry.listIn,
      has.listIn hq.addresses, Filter.ofAddresses_present]
  have hlist : Inquiry.ofList s.defaultSelection q.subject (ss ++ as) =
      q.toInquiry s.defaultSelection := by
    rw [Inquiry.ofList]
    exact q.requireSubject_bind hselection hfilter
  rw [Service.inquire_of_route hroute hallowed, hparameters, ← hlist]
  unfold Inquiry.ofRequest
  simp only [htexts, hform, bind, Except.bind]

end Question
end ContactHistory
