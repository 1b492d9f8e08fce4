import ContactHistory.Json.Record
import ContactHistory.Proofs.Json.Taking

namespace ContactHistory.Json.Reader

variable {α δ : Type}

/-- Members fill a draft: each one is wanted, not given before, and taken by its own reader. -/
inductive Fills (fields : List (Member δ)) (l : Layout) : δ → List (String × Value) → δ → Prop
  | nil (d : δ) : Fills fields l d [] d
  | cons {d d' d'' : δ} {name : String} {v : Value} {ms : List (String × Value)} {f : Member δ}
      (found : fields.find? (fun f => f.name = name) = some f) (fresh : f.given d = false)
      (takes : Takes (f.read d) l v d') (rest : Fills fields l d' ms d'') :
      Fills fields l d ((name, v) :: ms) d''

/-- A member that is read into a part of a draft takes what the reader of the part takes. -/
theorem Takes.member {reader : Input → Except Fault (α × Input)} {l : Layout} {v : Value} {a : α}
    {name : String} {get : δ → Option α} {set : δ → α → δ} {d : δ} (h : Takes reader l v a) :
    Takes ((Member.of name get set reader).read d) l v (set d a) := by
  intro front rest hfront hrest
  change (reader _).map _ = _
  rw [h front rest hfront hrest]
  rfl

/-- What is taken into a part of a draft is what the reader of the part takes. -/
theorem Takes.of_member {reader : Input → Except Fault (α × Input)} {l : Layout} {v : Value}
    {name : String} {get : δ → Option α} {set : δ → α → δ} (hget : ∀ d a, get (set d a) = some a)
    {d d' : δ} (h : Takes ((Member.of name get set reader).read d) l v d') :
    ∃ a, d' = set d a ∧ Takes reader l v a := by
  have hread (front rest : Input) (hfront : ∀ c ∈ front, isBlank c = true)
      (hrest : Delimited rest) :
      ∃ a, set d a = d' ∧
        reader (front ++ (Input.ofChars (v.render l) ++ rest)) = .ok (a, rest) := by
    have hmember := h front rest hfront hrest
    change (reader _).map _ = _ at hmember
    cases hr : reader (front ++ (Input.ofChars (v.render l) ++ rest)) with
    | error e =>
      rw [hr] at hmember
      cases hmember
    | ok p =>
      rw [hr] at hmember
      cases hmember
      exact ⟨p.1, rfl, rfl⟩
  obtain ⟨a, rfl, -⟩ := hread [] [] (by simp) (by simp [Delimited])
  refine ⟨a, rfl, fun front rest hfront hrest => ?_⟩
  -- The draft tells what was read, so every reading gives the same.
  obtain ⟨b, hb, hr⟩ := hread front rest hfront hrest
  have hsame := congrArg get hb
  rw [hget, hget] at hsame
  rwa [← Option.some.inj hsame]

theorem Takes.given_of_member {reader : Input → Except Fault (α × Input)} {l : Layout} {v : Value}
    {name : String} {get : δ → Option α} {set : δ → α → δ} (hget : ∀ d a, get (set d a) = some a)
    {d d' : δ} (h : Takes ((Member.of name get set reader).read d) l v d') :
    (Member.of name get set reader).given d' = true := by
  obtain ⟨a, rfl, -⟩ := h.of_member hget
  exact congrArg Option.isSome (hget d a)

end Reader

/-- Two members read parts of a draft of their own: the one does not give the other, and what they
read one after the other they may read the other way around. -/
def Member.Apart {δ : Type} (f g : Member δ) : Prop :=
  ∀ {l : Layout} {v w : Value} {d d' d'' : δ}, Reader.Takes (f.read d) l v d' →
    Reader.Takes (g.read d') l w d'' →
    g.given d' = g.given d ∧
      ∃ e, Reader.Takes (g.read d) l w e ∧ f.given e = f.given d ∧ Reader.Takes (f.read e) l v d''

theorem Member.apart_of {α β δ : Type} {name name' : String} {get : δ → Option α}
    {set : δ → α → δ} {reader : Input → Except Fault (α × Input)} {get' : δ → Option β}
    {set' : δ → β → δ} {reader' : Input → Except Fault (β × Input)}
    (hget : ∀ d a, get (set d a) = some a) (hget' : ∀ d b, get' (set' d b) = some b)
    (hkeep : ∀ d b, get (set' d b) = get d) (hkeep' : ∀ d a, get' (set d a) = get' d)
    (hset : ∀ d a b, set' (set d a) b = set (set' d b) a) :
    (Member.of name get set reader).Apart (Member.of name' get' set' reader') := by
  intro l v w d d' d'' hfirst hsecond
  obtain ⟨a, rfl, ha⟩ := hfirst.of_member hget
  obtain ⟨b, rfl, hb⟩ := hsecond.of_member hget'
  refine ⟨congrArg Option.isSome (hkeep' d a), set' d b, hb.member,
    congrArg Option.isSome (hkeep d b), ?_⟩
  rw [hset]
  exact ha.member

namespace Reader

/-- Fields that fill a draft in any order: each one gives its own part, and no two of different
names share one. -/
structure Parted (fields : List (Member δ)) : Prop where
  own : ∀ f ∈ fields, ∀ {l : Layout} {v : Value} {d d' : δ}, Takes (f.read d) l v d' →
    f.given d' = true
  apart : ∀ f ∈ fields, ∀ g ∈ fields, f.name ≠ g.name → f.Apart g

theorem Fills.perm {fields : List (Member δ)} (hfields : Parted fields) {l : Layout}
    {ms ns : List (String × Value)} (hperm : ms.Perm ns) {d d' : δ}
    (h : Fills fields l d ms d') : Fills fields l d ns d' := by
  induction hperm generalizing d with
  | nil => exact h
  | cons m _ ih =>
    obtain _ | ⟨hfound, hfresh, htakes, hrest⟩ := h
    exact .cons hfound hfresh htakes (ih hrest)
  | swap m n ms =>
    -- The draft in between changes: the second of the members is now read into the first draft.
    obtain ⟨name, v⟩ := m
    obtain ⟨name', v'⟩ := n
    obtain _ | @⟨_, _, _, _, _, _, f, hf, hffresh, hftakes, hrest⟩ := h
    obtain _ | @⟨_, _, _, _, _, _, g, hg, hgfresh, hgtakes, hrest⟩ := hrest
    have hfmem := List.mem_of_find?_eq_some hf
    have hgmem := List.mem_of_find?_eq_some hg
    have hne (he : f.name = g.name) : False := by
      have hfname : f.name = name' := by simpa using List.find?_some hf
      have hgname : g.name = name := by simpa using List.find?_some hg
      have hgiven := hfields.own f hfmem hftakes
      rw [← hfname, he, hgname, hg] at hf
      rw [← Option.some.inj hf, hgfresh] at hgiven
      cases hgiven
    obtain ⟨hgiven, e, hge, hfgiven, hfe⟩ := hfields.apart f hfmem g hgmem hne hftakes hgtakes
    exact .cons hg (hgiven ▸ hgfresh) hge (.cons hf (hfgiven.trans hffresh) hfe hrest)
  | trans _ _ ih ih' => exact ih' (ih h)

theorem isBlank_colon (l : Layout) :
    ∃ front : Input, Input.ofChars l.colon = some ':' :: front ∧ ∀ c ∈ front, isBlank c = true := by
  cases l with
  | compact => exact ⟨[], rfl, by simp⟩
  | pretty n =>
    refine ⟨[some ' '], rfl, ?_⟩
    intro c hc
    rw [List.mem_singleton.mp hc]
    rfl

/-- The value of a member is taken from behind its name. -/
theorem memberValue_takes {fields : List (Member δ)} {l : Layout} {d d' : δ} {name : String}
    {v : Value} {f : Member δ} (hfound : fields.find? (fun f => f.name = name) = some f)
    (hfresh : f.given d = false) (htakes : Takes (f.read d) l v d') {rest : Input}
    (hrest : Delimited rest) :
    memberValue fields name d (Input.ofChars l.colon ++ (Input.ofChars (v.render l) ++ rest)) =
      .ok (d', rest) := by
  obtain ⟨front, hcolon, hfront⟩ := isBlank_colon l
  unfold memberValue
  rw [hfound, hcolon, List.cons_append, skipBlanks_cons (by decide)]
  simp only [hfresh, Bool.false_eq_true, if_false]
  change f.read d (front ++ (Input.ofChars (v.render l) ++ rest)) = _
  exact htakes front rest hfront hrest

theorem nextName_close (first : Bool) {front : Input} (h : ∀ c ∈ front, isBlank c = true)
    (rest : Input) : nextName first (front ++ some '\x7d' :: rest) = .ok (false, rest) := by
  unfold nextName
  rw [skipBlanks_append h, skipBlanks_cons (by decide)]
  rfl

theorem nextName_first {front : Input} (h : ∀ c ∈ front, isBlank c = true) (rest : Input) :
    nextName true (front ++ some '"' :: rest) = .ok (true, rest) := by
  unfold nextName
  rw [skipBlanks_append h, skipBlanks_cons (by decide)]
  rfl

theorem nextName_comma {front : Input} (h : ∀ c ∈ front, isBlank c = true) (rest : Input) :
    nextName false (some ',' :: (front ++ some '"' :: rest)) = .ok (true, rest) := by
  unfold nextName
  rw [skipBlanks_cons (by decide)]
  split
  · next he => cases he
  · next he => cases he
  · next he =>
    obtain ⟨rfl, rfl⟩ := List.cons.inj he
    rw [if_neg Bool.false_ne_true, if_pos rfl, skipBlanks_append h, skipBlanks_cons (by decide)]
    rfl

/-- A written member: the text of its name, the quote behind it, the colon and the value. -/
theorem ofChars_member (l : Layout) (name : String) (v : Value) (rest : Input) :
    Input.ofChars (Value.member l (name, v)) ++ rest =
      some '"' :: (Input.ofChars (escape name.toList) ++ some '"' ::
        (Input.ofChars l.colon ++ (Input.ofChars (v.render l) ++ rest))) := by
  simp [Value.member, quote]

theorem members_tail {fields : List (Member δ)} {l : Layout} {d d' : δ}
    {ms : List (String × Value)} (h : Fills fields l.deeper d ms d') {n : Nat}
    (hn : ms.length < n) (rest : Input) :
    members fields n false d
      (Input.ofChars (l.tail '\x7d' (ms.map (Value.member l.deeper))) ++ rest) =
      .ok (d', rest) := by
  induction h generalizing n with
  | nil d =>
    obtain ⟨m, rfl⟩ := Nat.exists_eq_succ_of_ne_zero (Nat.ne_of_gt hn)
    have hclose := nextName_close false (isBlank_lineBreak l) rest
    have he : Input.ofChars (l.tail '\x7d' ([].map (Value.member l.deeper))) ++ rest =
        Input.ofChars l.lineBreak ++ some '\x7d' :: rest := by
      simp [Layout.tail_nil]
    rw [he, members, hclose]
  | @cons d d' d'' name v ms f hfound hfresh htakes _ ih =>
    obtain ⟨m, rfl⟩ := Nat.exists_eq_succ_of_ne_zero (Nat.ne_of_gt (Nat.zero_lt_of_lt hn))
    have hm : ms.length < m := by
      rw [List.length_cons] at hn
      omega
    let behind := Input.ofChars (l.tail '\x7d' (ms.map (Value.member l.deeper))) ++ rest
    have hbehind : Delimited behind := delimited_tail l (.inr rfl) _ rest
    have hvalue := memberValue_takes hfound hfresh htakes hbehind
    have he : Input.ofChars
        (l.tail '\x7d' (((name, v) :: ms).map (Value.member l.deeper))) ++ rest =
        some ',' :: (Input.ofChars l.deeper.lineBreak ++
          (Input.ofChars (Value.member l.deeper (name, v)) ++ behind)) := by
      simp [Layout.tail_cons, behind]
    rw [he, ofChars_member, members, nextName_comma (isBlank_lineBreak l.deeper)]
    simp only [quoted_escape, hvalue]
    exact ih hm

/-- A record is taken if its members fill a draft that can be finished. -/
theorem takes_record {fields : List (Member δ)} {start d : δ} {finish : δ → Option α} {l : Layout}
    {ms : List (String × Value)} {a : α} (h : Fills fields l.deeper start ms d)
    (hfinish : finish d = some a) : Takes (record fields start finish) l (.object ms) a := by
  intro front rest hfront _
  have hrender : (Value.object ms).render l =
      l.bracket '\x7b' '\x7d' (ms.map (Value.member l.deeper)) := by
    rw [Value.render, Value.renderMembers_eq]
  rw [hrender]
  unfold record
  rw [skipBlanks_append hfront]
  have hclosed (rest : Input) : record.close finish (d, rest) = .ok (a, rest) := by
    simp only [record.close, hfinish]
  -- The first member stands behind the brace without a comma, the others are those of the tail.
  cases h with
  | nil => exact hclosed rest
  | @cons _ d' _ name v ms f hfound hfresh htakes hfills =>
    let behind := Input.ofChars (l.tail '\x7d' (ms.map (Value.member l.deeper))) ++ rest
    let inside := Input.ofChars l.deeper.lineBreak ++
      (Input.ofChars (Value.member l.deeper (name, v)) ++ behind)
    have he : Input.ofChars
        (l.bracket '\x7b' '\x7d' (((name, v) :: ms).map (Value.member l.deeper))) ++ rest =
        some '\x7b' :: inside := by
      simp [Layout.bracket_cons, inside, behind]
    have hlength : ms.length < inside.length := by
      have htail := l.length_le_length_tail '\x7d' (ms.map (Value.member l.deeper))
      simp only [inside, behind, Value.member, quote, List.length_append, Input.length_ofChars,
        List.length_cons, List.length_map] at htail ⊢
      omega
    have hbehind : Delimited behind := delimited_tail l (.inr rfl) _ rest
    have hvalue := memberValue_takes hfound hfresh htakes hbehind
    have hrest := members_tail hfills hlength rest
    rw [he, skipBlanks_cons (by decide)]
    change (members fields (inside.length + 1) true start inside).bind _ = _
    have hopen := nextName_first (isBlank_lineBreak l.deeper)
      (Input.ofChars (escape name.toList) ++ some '"' ::
        (Input.ofChars l.deeper.colon ++ (Input.ofChars (v.render l.deeper) ++ behind)))
    rw [← ofChars_member] at hopen
    rw [members, hopen]
    simp only [quoted_escape, hvalue]
    rw [hrest]
    exact hclosed rest

end ContactHistory.Json.Reader
