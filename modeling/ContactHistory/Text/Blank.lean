namespace ContactHistory.Text

/-- The code points of the property White_Space, as ranges with both ends included. -/
def blankRanges : List (Nat × Nat) :=
  [(0x09, 0x0D), (0x20, 0x20), (0x85, 0x85), (0xA0, 0xA0), (0x1680, 0x1680), (0x2000, 0x200A),
    (0x2028, 0x2029), (0x202F, 0x202F), (0x205F, 0x205F), (0x3000, 0x3000)]

def isBlank (c : Char) : Bool :=
  blankRanges.any fun r => r.1 ≤ c.toNat && c.toNat ≤ r.2

def trimStart (cs : List Char) : List Char := cs.dropWhile isBlank

def trimEnd (cs : List Char) : List Char := (cs.reverse.dropWhile isBlank).reverse

def trim (cs : List Char) : List Char := trimEnd (trimStart cs)

/-- The text without the blanks at its two ends. -/
def trimmed (s : String) : String := String.ofList (trim s.toList)

theorem toList_trimmed (s : String) : (trimmed s).toList = trim s.toList := by
  simp [trimmed]

theorem trimStart_cons_of_not_blank {c : Char} {cs : List Char} (h : isBlank c = false) :
    trimStart (c :: cs) = c :: cs := by
  simp [trimStart, h]

theorem trimEnd_cons_of_not_blank {c : Char} {cs : List Char} (h : isBlank c = false) :
    trimEnd (c :: cs) = c :: trimEnd cs := by
  have hc : List.dropWhile isBlank [c] = [c] := by simp [h]
  unfold trimEnd
  rw [List.reverse_cons, List.dropWhile_append, hc]
  split
  · next he =>
    rw [List.isEmpty_iff.mp he]
    rfl
  · simp

theorem trimStart_eq_nil_or (cs : List Char) :
    trimStart cs = [] ∨ ∃ c r, trimStart cs = c :: r ∧ isBlank c = false := by
  induction cs with
  | nil => exact .inl rfl
  | cons c cs ih =>
    cases h : isBlank c with
    | true => simpa [trimStart, h] using ih
    | false => exact .inr ⟨c, cs, trimStart_cons_of_not_blank h, h⟩

theorem trimStart_trimStart (cs : List Char) : trimStart (trimStart cs) = trimStart cs := by
  rcases trimStart_eq_nil_or cs with h | ⟨c, r, h, hc⟩
  · rw [h]
    rfl
  · rw [h, trimStart_cons_of_not_blank hc]

theorem trimEnd_trimEnd (cs : List Char) : trimEnd (trimEnd cs) = trimEnd cs := by
  have h := trimStart_trimStart cs.reverse
  unfold trimStart at h
  simp [trimEnd, h]

theorem trim_trim (cs : List Char) : trim (trim cs) = trim cs := by
  unfold trim
  rcases trimStart_eq_nil_or cs with h | ⟨c, r, h, hc⟩
  · rw [h]
    rfl
  · rw [h, trimEnd_cons_of_not_blank hc, trimStart_cons_of_not_blank hc,
      trimEnd_cons_of_not_blank hc, trimEnd_trimEnd]

/-- No blank stands at the front of a trimmed text, and none at its end. -/
theorem not_blank_head_trim {cs : List Char} : ∀ c ∈ (trim cs).head?, isBlank c = false := by
  unfold trim
  rcases trimStart_eq_nil_or cs with h | ⟨c, r, h, hc⟩
  · rw [h]
    intro d hd
    cases hd
  · rw [h, trimEnd_cons_of_not_blank hc]
    intro d hd
    obtain rfl := Option.some.inj hd
    exact hc

theorem not_blank_last_trim {cs : List Char} : ∀ c ∈ (trim cs).getLast?, isBlank c = false := by
  intro c hc
  have hlast : (trim cs).getLast? = (trimStart (trimStart cs).reverse).head? :=
    List.getLast?_reverse
  rw [hlast] at hc
  rcases trimStart_eq_nil_or (trimStart cs).reverse with h | ⟨d, r, h, hd⟩
  · rw [h] at hc
    cases hc
  · rw [h] at hc
    obtain rfl := Option.some.inj hc
    exact hd

theorem trimStart_append {front : List Char} (h : ∀ c ∈ front, isBlank c = true)
    (cs : List Char) : trimStart (front ++ cs) = trimStart cs := List.dropWhile_append_of_pos h

theorem trimEnd_append {back : List Char} (h : ∀ c ∈ back, isBlank c = true) (cs : List Char) :
    trimEnd (cs ++ back) = trimEnd cs := by
  have hback : ∀ c ∈ back.reverse, isBlank c = true := fun c hc => h c (List.mem_reverse.mp hc)
  unfold trimEnd
  rw [List.reverse_append, List.dropWhile_append_of_pos hback]

theorem trimStart_eq_self {cs : List Char} (h : ∀ c ∈ cs.head?, isBlank c = false) :
    trimStart cs = cs := by
  cases cs with
  | nil => rfl
  | cons c cs => exact trimStart_cons_of_not_blank (h c rfl)

theorem trimEnd_eq_self {cs : List Char} (h : ∀ c ∈ cs.getLast?, isBlank c = false) :
    trimEnd cs = cs := by
  have hlast : ∀ c ∈ cs.reverse.head?, isBlank c = false := by
    rw [List.head?_reverse]
    exact h
  have hstart := trimStart_eq_self hlast
  unfold trimStart at hstart
  rw [trimEnd, hstart, List.reverse_reverse]

theorem trim_eq_self {cs : List Char} (hhead : ∀ c ∈ cs.head?, isBlank c = false)
    (hlast : ∀ c ∈ cs.getLast?, isBlank c = false) : trim cs = cs := by
  rw [trim, trimStart_eq_self hhead, trimEnd_eq_self hlast]

theorem trim_of_not_blank {cs : List Char} (h : ∀ c ∈ cs, isBlank c = false) : trim cs = cs :=
  trim_eq_self (fun c hc => h c (List.mem_of_mem_head? hc))
    fun c hc => h c (List.mem_of_getLast? hc)

theorem trim_append {front back : List Char} (hfront : ∀ c ∈ front, isBlank c = true)
    (hback : ∀ c ∈ back, isBlank c = true) (cs : List Char) :
    trim (front ++ (cs ++ back)) = trim cs := by
  unfold trim
  rw [trimStart_append hfront]
  induction cs with
  | nil =>
    have hend := trimStart_append hback []
    rw [List.append_nil] at hend
    rw [List.nil_append, hend]
  | cons c cs ih =>
    cases hc : isBlank c with
    | true => simpa [trimStart, hc] using ih
    | false =>
      have hkept := trimEnd_append hback (c :: cs)
      rw [List.cons_append] at hkept ⊢
      rw [trimStart_cons_of_not_blank hc, trimStart_cons_of_not_blank hc, hkept]

theorem trim_map {f : Char → Char} (h : ∀ c, isBlank (f c) = isBlank c) (cs : List Char) :
    trim (cs.map f) = (trim cs).map f := by
  have hf : isBlank ∘ f = isBlank := funext h
  simp [trim, trimStart, trimEnd, List.dropWhile_map, hf, ← List.map_reverse]

theorem exists_eq_append_trim (cs : List Char) :
    ∃ front back, cs = front ++ (trim cs ++ back) ∧ (∀ c ∈ front, isBlank c = true) ∧
      ∀ c ∈ back, isBlank c = true := by
  have hblank (ds : List Char) : ∀ c ∈ ds.takeWhile isBlank, isBlank c = true :=
    fun c hc => List.all_eq_true.mp List.all_takeWhile c hc
  refine ⟨cs.takeWhile isBlank, ((trimStart cs).reverse.takeWhile isBlank).reverse, ?_,
    hblank cs, fun c hc => hblank _ c (List.mem_reverse.mp hc)⟩
  have hend : trim cs ++ ((trimStart cs).reverse.takeWhile isBlank).reverse = trimStart cs := by
    rw [trim, trimEnd, ← List.reverse_append, List.takeWhile_append_dropWhile, List.reverse_reverse]
  rw [hend, trimStart, List.takeWhile_append_dropWhile]

/-- Nothing is left of a text of blanks, and only of such a text. -/
theorem trim_eq_nil_iff {cs : List Char} : trim cs = [] ↔ ∀ c ∈ cs, isBlank c = true := by
  constructor
  · intro h
    obtain ⟨front, back, hcs, hfront, hback⟩ := exists_eq_append_trim cs
    rw [h, List.nil_append] at hcs
    rw [hcs]
    exact List.forall_mem_append.mpr ⟨hfront, hback⟩
  · intro h
    have hends := trim_append h (fun c hc => absurd hc List.not_mem_nil) []
    rwa [List.append_nil, List.append_nil] at hends

theorem mem_of_mem_trim {cs : List Char} {c : Char} (h : c ∈ trim cs) : c ∈ cs := by
  obtain ⟨front, back, hcs, -, -⟩ := exists_eq_append_trim cs
  rw [hcs]
  exact List.mem_append_right front (List.mem_append_left back h)

example : trimmed "\u00a0 a b\u3000\n" = "a b" := by decide

end ContactHistory.Text
