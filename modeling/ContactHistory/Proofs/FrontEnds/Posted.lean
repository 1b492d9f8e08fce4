import ContactHistory.Proofs.Answers
import ContactHistory.Proofs.FrontEnds.Question
import ContactHistory.Proofs.Json.Members

namespace ContactHistory

open Http Json Json.Reader Text

namespace Json.Reader

variable {δ : Type} {fields : List (Member δ)} {l : Layout}

theorem Fills.append {d d' d'' : δ} {ms ns : List (String × Value)} (h : Fills fields l d ms d')
    (h' : Fills fields l d' ns d'') : Fills fields l d (ms ++ ns) d'' := by
  induction h with
  | nil => exact h'
  | cons found fresh takes _ ih => exact .cons found fresh takes (ih h')

/-- A list of texts is taken where there may be null. -/
theorem takes_nullable_ofTexts (l : Layout) (xs : List String) :
    Takes (nullable (list text)) l (.ofTexts xs) (some xs) := by
  apply (takes_ofTexts l xs).nullable
  cases xs <;> simp [Value.ofTexts, Value.render, Value.renderItems, Layout.bracket]

end Json.Reader

namespace Question

variable {l : Layout}

/-- The members for a list fill the part of a draft that is for it. The draft is given by that part,
which stays empty if the list is left out. -/
theorem ListMembers.fills {δ : Type} {fields : List (Member δ)} {name : String} {xs : List String}
    {ms : List (String × Value)} (h : ListMembers name xs ms)
    {get : δ → Option (Option (List String))} {set : δ → Option (List String) → δ}
    (hfound : fields.find? (fun f => f.name = name) =
      some (.of name get set (nullable (list text))))
    (draft : Option (Option (List String)) → δ) (hget : get (draft none) = none)
    (hset : ∀ o, set (draft none) o = draft (some o)) :
    ∃ o, (o.getD none).getD [] = xs ∧ Fills fields l (draft none) ms (draft o) := by
  have hfresh : (Member.of name get set (nullable (list text))).given (draft none) = false := by
    change (get (draft none)).isSome = false
    rw [hget]
    rfl
  have hone {v : Value} {o : Option (List String)} (htakes : Takes (nullable (list text)) l v o) :
      Fills fields l (draft none) [(name, v)] (draft (some o)) := by
    rw [← hset]
    exact .cons hfound hfresh htakes.member (.nil _)
  cases h with
  | given => exact ⟨some (some xs), rfl, hone (takes_nullable_ofTexts l xs)⟩
  | null => exact ⟨some none, rfl, hone (takes_nullable_null _ l)⟩
  | absent => exact ⟨none, rfl, .nil _⟩

/-- The members for the addresses fill the part of a body that is for the filter. -/
theorem FilterMembers.fills {xs : List String} {ms : List (String × Value)}
    (h : FilterMembers xs ms) (subject : Option String) (sources : Option (Option (List String))) :
    ∃ o : Option (Option (Option (List String))), ((o.getD none).getD none).getD [] = xs ∧
      Fills AggregateBody.fields l ⟨subject, sources, none⟩ ms ⟨subject, sources, o⟩ := by
  have hone {v : Value} {o : Option (Option (List String))}
      (htakes : Takes (nullable AggregateBody.readFilter) l v o) :
      Fills AggregateBody.fields l ⟨subject, sources, none⟩ [("filter", v)]
        ⟨subject, sources, some o⟩ :=
    .cons rfl rfl htakes.member (.nil _)
  cases h with
  | @given _ ms h =>
    have hmembers : ∃ o, (o.getD none).getD [] = xs ∧
        Fills AggregateBody.filterFields l.deeper ⟨none⟩ ms ⟨o⟩ :=
      h.fills rfl (fun o => (⟨o⟩ : AggregateBody.FilterDraft)) rfl fun _ => rfl
    obtain ⟨o, ho, hfills⟩ := hmembers
    have htakes : Takes AggregateBody.readFilter l (.object ms) (o.getD none) :=
      takes_record hfills rfl
    have hobject : ((Value.object ms).render l).head? ≠ some 'n' := by
      cases ms <;> simp [Value.render, Value.renderMembers, Layout.bracket]
    exact ⟨some (some (o.getD none)), ho, hone (htakes.nullable hobject)⟩
  | null => exact ⟨some none, rfl, hone (takes_nullable_null _ l)⟩
  | absent => exact ⟨none, rfl, .nil _⟩

theorem parted_fields : Parted AggregateBody.fields where
  own := by
    intro f hf l v d d' h
    simp only [AggregateBody.fields, List.mem_cons, List.not_mem_nil, or_false] at hf
    obtain rfl | rfl | rfl := hf <;> exact Takes.given_of_member (by intros; rfl) h
  apart := by
    intro f hf g hg hne
    simp only [AggregateBody.fields, List.mem_cons, List.not_mem_nil, or_false] at hf hg
    obtain rfl | rfl | rfl := hf <;> obtain rfl | rfl | rfl := hg
    all_goals first
      | exact absurd rfl hne
      | refine Member.apart_of ?_ ?_ ?_ ?_ ?_ <;> intros <;> rfl

/-- A body that asks a question is taken as its parts. -/
theorem Body.takes {q : Question} {v : Value} (h : q.Body v) (l : Layout) :
    ∃ b, Takes AggregateBody.read l v b ∧ b.subject = q.subject ∧ b.sources.getD [] = q.sources ∧
      b.addresses.getD [] = q.addresses := by
  obtain @⟨ss, fs, ms, hsources, haddresses, horder⟩ := h
  have hsubject : Takes text l.deeper (.text q.subject) q.subject := takes_text _ _
  have hfirst : ∃ o, (o.getD none).getD [] = q.sources ∧
      Fills AggregateBody.fields l.deeper ⟨some q.subject, none, none⟩ ss
        ⟨some q.subject, o, none⟩ :=
    hsources.fills rfl (fun o => (⟨some q.subject, o, none⟩ : AggregateBody.Draft)) rfl fun _ => rfl
  obtain ⟨o, ho, hfills⟩ := hfirst
  obtain ⟨o', ho', hfills'⟩ := haddresses.fills (l := l.deeper) (some q.subject) o
  have hall : Fills AggregateBody.fields l.deeper {} (("subject", .text q.subject) :: (ss ++ fs))
      ⟨some q.subject, o, o'⟩ :=
    .cons rfl rfl hsubject.member (hfills.append hfills')
  have htakes : Takes AggregateBody.read l (.object ms)
      ⟨q.subject, o.getD none, (o'.getD none).getD none⟩ :=
    takes_record (hall.perm parted_fields horder) rfl
  exact ⟨_, htakes, rfl, ho, ho'⟩

theorem Posts.parts {q : Question} {r : Request} (h : q.Posts r) :
    r.method = "POST" ∧ r.path = bodyTarget ∧
      (r.visibleHeader? "content-type").map MediaType.isJson = some true ∧
      ∃ v l, q.Body v ∧ r.body = Utf8.encode (String.ofList (v.render l)) := by
  obtain ⟨headers, v, l, hbody, hparts, hjson⟩ := h
  have htarget : Target.read? bodyTarget = some ⟨bodyTarget, none⟩ := by decide
  simp only [Request.ofParts?, htarget, Option.bind_eq_bind, Option.bind_some] at hparts
  split at hparts
  · cases hparts
    exact ⟨rfl, rfl, hjson, v, l, hbody, rfl⟩
  · cases hparts

/-- A request with a body on one line, which says that it is JSON. -/
def bodyRequest (v : Value) : Request :=
  ⟨"POST", bodyTarget, none, [("content-type", jsonType)], Utf8.encode v.compact⟩

theorem Body.posts {q : Question} {v : Value} (h : q.Body v) : q.Posts (bodyRequest v) := by
  have htarget : Target.read? bodyTarget = some ⟨bodyTarget, none⟩ := by decide
  have hsendable : (isToken "POST" && [("content-type", jsonType)].all isField) = true := by decide
  have hheader : field? [("content-type", jsonType)] "content-type" = some jsonType := by decide
  have hjson : ((bodyRequest v).visibleHeader? "content-type").map MediaType.isJson =
      some true := by
    change ((field? [("content-type", jsonType)] "content-type").filter _).map _ = _
    rw [hheader]
    decide
  refine ⟨[("content-type", jsonType)], v, .compact, h, ?_, hjson⟩
  simp only [Request.ofParts?, htarget, Option.bind_eq_bind, Option.bind_some, hsendable, if_true]
  rfl

theorem Body.length_subject_le {q : Question} {v : Value} (h : q.Body v) (l : Layout) :
    q.subject.toList.length ≤ (v.render l).length := by
  have hescape := length_le_length_escape q.subject.toList
  have htext : (escape q.subject.toList).length ≤
      ((Value.text q.subject).render l.deeper).length := by
    rw [Value.render, quote]
    simp only [List.length_cons, List.length_append]
    omega
  obtain ⟨-, -, horder⟩ := h
  have hobject := Value.length_le_length_render l (horder.subset List.mem_cons_self)
  exact Nat.le_trans hescape (Nat.le_trans htext hobject)

theorem Posts.length_subject_le {q : Question} {r : Request} (h : q.Posts r) :
    q.subject.toList.length ≤ r.body.length := by
  obtain ⟨-, -, -, v, l, hbody, hr⟩ := h.parts
  have hbytes := Utf8.length_le_length_encode (String.ofList (v.render l))
  rw [String.toList_ofList, ← hr] at hbytes
  exact Nat.le_trans (hbody.length_subject_le l) hbytes

theorem Posts.read {q : Question} {r : Request} (h : q.Posts r) {limit : Nat}
    (hlimit : r.body.length ≤ limit) :
    ∃ b, AggregateBody.ofRequest limit r = .ok b ∧ b.subject = q.subject ∧
      b.sources.getD [] = q.sources ∧ b.addresses.getD [] = q.addresses := by
  obtain ⟨-, -, hjson, v, l, hbody, hr⟩ := h.parts
  obtain ⟨b, htakes, hb⟩ := hbody.takes l
  refine ⟨b, ?_, hb⟩
  have hinput : (Utf8.pieces r.body).map Piece.char? = Input.ofChars (v.render l) := by
    rw [hr, Utf8.pieces_encode, String.toList_ofList, List.map_map]
    rfl
  have hread : AggregateBody.read (Input.ofChars (v.render l)) = .ok (b, []) := by
    have hwhole := htakes [] [] (by simp) (by simp [Delimited])
    rwa [List.nil_append, List.append_nil] at hwhole
  unfold AggregateBody.ofRequest
  rw [hjson, Option.getD_some, if_pos rfl, if_neg (Nat.not_lt.mpr hlimit), hinput, hread]

theorem Posts.read_of_limit_lt {q : Question} {r : Request} (h : q.Posts r) {limit : Nat}
    (hlimit : limit < r.body.length) :
    AggregateBody.ofRequest limit r = .error (.plain 413 "length limit exceeded") := by
  obtain ⟨-, -, hjson, -⟩ := h.parts
  unfold AggregateBody.ofRequest
  rw [hjson, Option.getD_some, if_pos rfl, if_pos hlimit]

/-- A posted question asks what the service makes of it, unless its body is too long. -/
theorem Posts.inquire {q : Question} {r : Request} (h : q.Posts r) (s : Service) (limit : Nat) :
    s.inquire limit r =
      if limit < r.body.length then .error (.plain 413 "length limit exceeded")
      else some <$> q.toInquiry s.defaultSelection := by
  obtain ⟨hmethod, hpath, -⟩ := h.parts
  have hroute : Route.ofPath? r.path = some .aggregate := by
    rw [hpath]
    decide
  have hallowed : Route.aggregate.methods.contains r.method = true := by
    rw [hmethod]
    decide
  rw [Service.inquire_of_route hroute hallowed]
  change (AggregateBody.ofRequest limit r).bind _ = _
  split
  · next hlimit =>
    rw [h.read_of_limit_lt hlimit]
    rfl
  · next hlimit =>
    obtain ⟨b, hb, hsubject, hsources, haddresses⟩ := h.read (Nat.le_of_not_lt hlimit)
    have hselection : Selection.ofNamesOr s.defaultSelection b.sources =
        .ofNamesOr s.defaultSelection (some q.sources) := by
      rw [Selection.ofNamesOr_getD, hsources]
    have hfilter : Inquiry.filterOf b.addresses = .ofAddresses q.addresses := by
      rw [Inquiry.filterOf_eq, haddresses]
    rw [hb]
    change some <$> Inquiry.ofBody s.defaultSelection b = _
    rw [Inquiry.ofBody, hsubject]
    exact congrArg _ (q.requireSubject_bind hselection hfilter)

end Question
end ContactHistory
