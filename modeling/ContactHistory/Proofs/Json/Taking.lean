import ContactHistory.Proofs.Json.Number

namespace ContactHistory.Json

namespace Layout

/-- The items behind the first one of a list or an object, and its last bracket. -/
def tail (l : Layout) (last : Char) (xs : List (List Char)) : List Char :=
  xs.flatMap (fun y => ',' :: (l.deeper.lineBreak ++ y)) ++ (l.lineBreak ++ [last])

theorem bracket_cons (l : Layout) (first last : Char) (x : List Char) (xs : List (List Char)) :
    l.bracket first last (x :: xs) = first :: (l.deeper.lineBreak ++ (x ++ l.tail last xs)) := by
  simp [bracket, tail]

theorem tail_nil (l : Layout) (last : Char) : l.tail last [] = l.lineBreak ++ [last] := rfl

theorem tail_cons (l : Layout) (last : Char) (x : List Char) (xs : List (List Char)) :
    l.tail last (x :: xs) = ',' :: (l.deeper.lineBreak ++ (x ++ l.tail last xs)) := by
  simp [tail]

theorem length_le_length_tail (l : Layout) (last : Char) (xs : List (List Char)) :
    xs.length ≤ (l.tail last xs).length := by
  induction xs with
  | nil => exact Nat.zero_le _
  | cons x xs ih =>
    rw [tail_cons]
    simp only [List.length_cons, List.length_append]
    omega

theorem length_le_length_tail_of_mem (l : Layout) (last : Char) {x : List Char}
    {xs : List (List Char)} (h : x ∈ xs) : x.length ≤ (l.tail last xs).length := by
  induction xs with
  | nil => cases h
  | cons y ys ih =>
    rw [tail_cons]
    simp only [List.length_cons, List.length_append]
    obtain rfl | hmem := List.mem_cons.mp h
    · omega
    · have hle := ih hmem
      omega

/-- Each item is a part of what stands between the brackets. -/
theorem length_le_length_bracket (l : Layout) (first last : Char) {x : List Char}
    {xs : List (List Char)} (h : x ∈ xs) : x.length ≤ (l.bracket first last xs).length := by
  cases xs with
  | nil => cases h
  | cons y ys =>
    rw [bracket_cons]
    simp only [List.length_cons, List.length_append]
    obtain rfl | hmem := List.mem_cons.mp h
    · omega
    · have hle := l.length_le_length_tail_of_mem last hmem
      omega

end Layout

namespace Value

theorem renderItems_eq (l : Layout) (vs : List Value) : renderItems l vs = vs.map (render l) := by
  induction vs with
  | nil => rfl
  | cons v vs ih => rw [renderItems, ih, List.map_cons]

def member (l : Layout) (m : String × Value) : List Char := quote m.1 ++ l.colon ++ render l m.2

theorem renderMembers_eq (l : Layout) (ms : List (String × Value)) :
    renderMembers l ms = ms.map (member l) := by
  induction ms with
  | nil => rfl
  | cons m ms ih => rw [renderMembers, ih, List.map_cons, member]

/-- An object is no shorter than the value of each of its members. -/
theorem length_le_length_render (l : Layout) {m : String × Value} {ms : List (String × Value)}
    (h : m ∈ ms) : (m.2.render l.deeper).length ≤ ((object ms).render l).length := by
  have hmember : (m.2.render l.deeper).length ≤ (member l.deeper m).length := by
    rw [member]
    simp only [List.length_append]
    omega
  rw [render, renderMembers_eq]
  exact Nat.le_trans hmember (l.length_le_length_bracket _ _ (List.mem_map_of_mem h))

/-- A written value begins with a character that is neither a blank nor a closing bracket. -/
theorem exists_render_cons (l : Layout) (v : Value) :
    ∃ c cs, v.render l = c :: cs ∧ Reader.isBlank (some c) = false ∧ c ≠ ']' := by
  cases v with
  | null => exact ⟨_, _, rfl, by decide, by decide⟩
  | bool b => cases b <;> exact ⟨_, _, rfl, by decide, by decide⟩
  | number n =>
    cases n with
    | ofNat m =>
      obtain ⟨d, ds, hds, hd⟩ := Text.Decimal.exists_digits_cons m
      refine ⟨d, ds, hds, (Reader.isBlank_digit hd).1, ?_⟩
      rintro rfl
      exact absurd hd (by decide)
    | negSucc m => exact ⟨_, _, rfl, by decide, by decide⟩
  | text s => exact ⟨_, _, rfl, by decide, by decide⟩
  | list vs =>
    rw [render]
    cases renderItems l.deeper vs <;> exact ⟨_, _, rfl, by decide, by decide⟩
  | object ms =>
    rw [render]
    cases renderMembers l.deeper ms <;> exact ⟨_, _, rfl, by decide, by decide⟩

end Value

namespace Reader

variable {α : Type}

/-! ### What stands around values -/

theorem isBlank_lineBreak (l : Layout) : ∀ c ∈ Input.ofChars l.lineBreak, isBlank c = true := by
  intro c hc
  cases l with
  | compact => simp [Layout.lineBreak] at hc
  | pretty n =>
    simp only [Layout.lineBreak, Input.ofChars, List.map_cons, List.map_replicate,
      List.mem_cons, List.mem_replicate] at hc
    rcases hc with rfl | ⟨_, rfl⟩ <;> decide

theorem skipBlanks_append {front : Input} (h : ∀ c ∈ front, isBlank c = true) (cs : Input) :
    skipBlanks (front ++ cs) = skipBlanks cs :=
  List.dropWhile_append_of_pos h

theorem skipBlanks_cons {c : Option Char} (h : isBlank c = false) (cs : Input) :
    skipBlanks (c :: cs) = c :: cs := by
  simp [skipBlanks, h]

/-- What may stand behind a value: nothing, a blank, a comma or a closing bracket. -/
def Delimited (cs : Input) : Prop :=
  ∀ c ∈ cs.head?, isBlank c = true ∨ c = some ',' ∨ c = some ']' ∨ c = some '}'

theorem Delimited.endsNumber {cs : Input} (h : Delimited cs) : EndsNumber cs := by
  intro c hc
  rcases h c hc with hb | rfl | rfl | rfl
  · cases c with
    | none => cases hb
    | some c =>
      simp only [isBlank, Bool.or_eq_true, decide_eq_true_eq, or_assoc] at hb
      rcases hb with rfl | rfl | rfl | rfl <;> decide
  all_goals decide

theorem delimited_tail (l : Layout) {last : Char} (hlast : last = ']' ∨ last = '}')
    (xs : List (List Char)) (rest : Input) :
    Delimited (Input.ofChars (l.tail last xs) ++ rest) := by
  intro c hc
  cases xs with
  | cons x xs =>
    rw [Layout.tail_cons] at hc
    cases hc
    exact .inr (.inl rfl)
  | nil =>
    rw [Layout.tail_nil] at hc
    cases l with
    | compact =>
      cases hc
      rcases hlast with rfl | rfl
      · exact .inr (.inr (.inl rfl))
      · exact .inr (.inr (.inr rfl))
    | pretty n =>
      cases hc
      exact .inl rfl

/-- In a layout the reader takes the text of a value and gives what it stands for; blanks in front
do not count, and what stands behind is left. -/
def Takes (reader : Input → Except Fault (α × Input)) (l : Layout) (v : Value) (a : α) : Prop :=
  ∀ front rest : Input, (∀ c ∈ front, isBlank c = true) → Delimited rest →
    reader (front ++ (Input.ofChars (v.render l) ++ rest)) = .ok (a, rest)

/-! ### Values without parts -/

theorem takes_text (l : Layout) (s : String) : Takes text l (.text s) s := by
  intro front rest hfront _
  have he : Input.ofChars ((Value.text s).render l) ++ rest =
      some '"' :: (Input.ofChars (escape s.toList) ++ some '"' :: rest) := by
    simp [Value.render, quote]
  rw [he]
  unfold text
  rw [skipBlanks_append hfront, skipBlanks_cons (by decide)]
  exact quoted_escape s rest

theorem takes_int64 (l : Layout) (n : Int64) : Takes int64 l (.number n.toInt) n := by
  intro front rest hfront hrest
  have hskip (cs : Input) : int64 (front ++ cs) = int64 cs := by
    unfold int64
    rw [skipBlanks_append hfront]
  rw [hskip]
  exact int64_ofInt n hrest.endsNumber

theorem takes_nullable_null (reader : Input → Except Fault (α × Input)) (l : Layout) :
    Takes (nullable reader) l .null none := by
  intro front rest hfront _
  unfold nullable
  rw [skipBlanks_append hfront]
  rfl

/-- A value that is not null is taken as what it is. -/
theorem Takes.nullable {reader : Input → Except Fault (α × Input)} {l : Layout} {v : Value} {a : α}
    (h : Takes reader l v a) (hv : (v.render l).head? ≠ some 'n') :
    Takes (nullable reader) l v (some a) := by
  intro front rest hfront hrest
  obtain ⟨c, cs, hcs, hblank, -⟩ := v.exists_render_cons l
  have hread := h [] rest (by simp) hrest
  have hne : c ≠ 'n' := by
    rintro rfl
    simp [hcs] at hv
  rw [hcs, Input.ofChars_cons, List.cons_append, List.nil_append] at hread
  unfold Reader.nullable
  rw [skipBlanks_append hfront, hcs, Input.ofChars_cons, List.cons_append, skipBlanks_cons hblank]
  split
  · next he =>
    obtain ⟨he, -⟩ := List.cons.inj he
    exact absurd (Option.some.inj he) hne
  · rw [hread]
    rfl

/-- A value that may be absent is taken as what it is, if no text of it looks like null. -/
theorem takes_ofOption {reader : Input → Except Fault (α × Input)} {l : Layout} {f : α → Value}
    (h : ∀ a, Takes reader l (f a) a) (hf : ∀ a, ((f a).render l).head? ≠ some 'n')
    (o : Option α) : Takes (nullable reader) l (Value.ofOption f o) o := by
  cases o with
  | none => exact takes_nullable_null reader l
  | some a => exact (h a).nullable (hf a)

/-! ### Lists -/

theorem nextItem_close (first : Bool) {front : Input} (h : ∀ c ∈ front, isBlank c = true)
    (rest : Input) : nextItem first (front ++ some ']' :: rest) = .ok (false, rest) := by
  unfold nextItem
  rw [skipBlanks_append h, skipBlanks_cons (by decide)]
  rfl

/-- The first item of a list stands right behind its bracket. -/
theorem nextItem_first {front : Input} (h : ∀ c ∈ front, isBlank c = true) (l : Layout) (v : Value)
    (rest : Input) :
    nextItem true (front ++ (Input.ofChars (v.render l) ++ rest)) =
      .ok (true, Input.ofChars (v.render l) ++ rest) := by
  obtain ⟨c, cs, hcs, hblank, hclose⟩ := v.exists_render_cons l
  unfold nextItem
  rw [skipBlanks_append h, hcs, Input.ofChars_cons, List.cons_append, skipBlanks_cons hblank]
  split
  · next he => cases he
  · next he =>
    obtain ⟨he, -⟩ := List.cons.inj he
    exact absurd (Option.some.inj he) hclose
  · next he => simp [← he]

theorem nextItem_comma {front : Input} (h : ∀ c ∈ front, isBlank c = true) (l : Layout) (v : Value)
    (rest : Input) :
    nextItem false (some ',' :: (front ++ (Input.ofChars (v.render l) ++ rest))) =
      .ok (true, Input.ofChars (v.render l) ++ rest) := by
  obtain ⟨c, cs, hcs, hblank, hclose⟩ := v.exists_render_cons l
  unfold nextItem
  rw [skipBlanks_cons (by decide)]
  split
  · next he => cases he
  · next he => cases he
  · next he =>
    obtain ⟨rfl, rfl⟩ := List.cons.inj he
    rw [if_neg Bool.false_ne_true, if_pos rfl, skipBlanks_append h, hcs, Input.ofChars_cons,
      List.cons_append, skipBlanks_cons hblank]
    split
    · next he => cases he
    · next he =>
      obtain ⟨he, -⟩ := List.cons.inj he
      exact absurd (Option.some.inj he) hclose
    · rfl

theorem items_tail {item : Input → Except Fault (α × Input)} {l : Layout} {f : α → Value}
    {xs : List α} (h : ∀ x ∈ xs, Takes item l.deeper (f x) x) {n : Nat} (hn : xs.length < n)
    (acc : List α) (rest : Input) :
    items item n false acc
      (Input.ofChars (l.tail ']' (xs.map fun x => (f x).render l.deeper)) ++ rest) =
      .ok (xs.reverse ++ acc, rest) := by
  -- Every item takes one round of the reader, and one more round finds the bracket.
  induction xs generalizing n acc with
  | nil =>
    obtain ⟨m, rfl⟩ := Nat.exists_eq_succ_of_ne_zero (Nat.ne_of_gt hn)
    have hclose := nextItem_close false (isBlank_lineBreak l) rest
    have he : Input.ofChars
        (l.tail ']' (([] : List α).map fun x => (f x).render l.deeper)) ++ rest =
        Input.ofChars l.lineBreak ++ some ']' :: rest := by
      simp [Layout.tail_nil]
    rw [he, items, hclose]
    rfl
  | cons x xs ih =>
    obtain ⟨m, rfl⟩ := Nat.exists_eq_succ_of_ne_zero (Nat.ne_of_gt (Nat.zero_lt_of_lt hn))
    have hm : xs.length < m := by
      rw [List.length_cons] at hn
      omega
    let behind := Input.ofChars (l.tail ']' (xs.map fun x => (f x).render l.deeper)) ++ rest
    have hnext := nextItem_comma (isBlank_lineBreak l.deeper) l.deeper (f x) behind
    have hx := h x List.mem_cons_self [] behind (by simp) (delimited_tail l (.inl rfl) _ rest)
    have hrest := ih (fun y hy => h y (List.mem_cons_of_mem x hy)) hm (x :: acc)
    have he : Input.ofChars (l.tail ']' ((x :: xs).map fun x => (f x).render l.deeper)) ++ rest =
        some ',' :: (Input.ofChars l.deeper.lineBreak ++
          (Input.ofChars ((f x).render l.deeper) ++ behind)) := by
      simp [Layout.tail_cons, behind]
    rw [List.nil_append] at hx
    rw [he, items, hnext]
    simp only [hx]
    rw [hrest]
    simp

theorem takes_list {item : Input → Except Fault (α × Input)} {l : Layout} {f : α → Value}
    {xs : List α} (h : ∀ x ∈ xs, Takes item l.deeper (f x) x) :
    Takes (list item) l (.list (xs.map f)) xs := by
  intro front rest hfront _
  have hrender : (Value.list (xs.map f)).render l =
      l.bracket '[' ']' (xs.map fun x => (f x).render l.deeper) := by
    rw [Value.render, Value.renderItems_eq, List.map_map]
    rfl
  rw [hrender]
  unfold list
  rw [skipBlanks_append hfront]
  cases xs with
  | nil => rfl
  | cons x xs =>
    let behind := Input.ofChars (l.tail ']' (xs.map fun x => (f x).render l.deeper)) ++ rest
    let inside := Input.ofChars l.deeper.lineBreak ++
      (Input.ofChars ((f x).render l.deeper) ++ behind)
    have he : Input.ofChars
        (l.bracket '[' ']' ((x :: xs).map fun x => (f x).render l.deeper)) ++ rest =
        some '[' :: inside := by
      simp [Layout.bracket_cons, inside, behind]
    have hlength : xs.length < inside.length := by
      have htail := l.length_le_length_tail ']' (xs.map fun x => (f x).render l.deeper)
      obtain ⟨c, cs, hcs, -⟩ := (f x).exists_render_cons l.deeper
      simp only [inside, behind, hcs, List.length_append, Input.length_ofChars, List.length_cons,
        List.length_map] at htail ⊢
      omega
    have hnext := nextItem_first (isBlank_lineBreak l.deeper) l.deeper (f x) behind
    have hx := h x List.mem_cons_self [] behind (by simp) (delimited_tail l (.inl rfl) _ rest)
    have hrest := items_tail (fun y hy => h y (List.mem_cons_of_mem x hy)) hlength [x] rest
    rw [List.nil_append] at hx
    rw [he, skipBlanks_cons (by decide)]
    change (items item (inside.length + 1) true [] inside).map _ = _
    rw [items, hnext]
    simp only [hx]
    rw [hrest]
    simp [Except.map]

theorem takes_ofTexts (l : Layout) (ss : List String) : Takes (list text) l (.ofTexts ss) ss :=
  takes_list fun s _ => takes_text l.deeper s

end Reader
end ContactHistory.Json
