import ContactHistory.Json.Reader

namespace ContactHistory.Json

/-- Characters as they stand in a text to be read. -/
def Input.ofChars (cs : List Char) : Input := cs.map some

namespace Input

@[simp] theorem ofChars_nil : ofChars [] = [] := rfl

@[simp] theorem ofChars_cons (c : Char) (cs : List Char) :
    ofChars (c :: cs) = some c :: ofChars cs := rfl

@[simp] theorem ofChars_append (cs ds : List Char) :
    ofChars (cs ++ ds) = ofChars cs ++ ofChars ds := List.map_append

@[simp] theorem length_ofChars (cs : List Char) : (ofChars cs).length = cs.length :=
  List.length_map some

end Input

theorem length_le_length_escape (cs : List Char) : cs.length ≤ (escape cs).length := by
  have one (c : Char) : 1 ≤ (escapeChar c).length := by
    unfold escapeChar
    repeat' split
    all_goals simp
  induction cs with
  | nil => exact Nat.le_refl _
  | cons c cs ih =>
    have hc := one c
    have he : (escape (c :: cs)).length = (escapeChar c).length + (escape cs).length := by
      simp [escape]
    rw [he, List.length_cons]
    omega

namespace Reader

/-- A small hexadecimal digit has its value and takes one byte. -/
theorem hexDigit_spec {n : Nat} (h : n < 16) :
    hexValue? (hexDigit n) = some n ∧ (hexDigit n).utf8Size = 1 := by
  have hall : ∀ m ∈ List.range 16,
      hexValue? (hexDigit m) = some m ∧ (hexDigit m).utf8Size = 1 := by decide
  exact hall n (List.mem_range.mpr h)

/-- A control character is read back from its four hexadecimal digits. -/
theorem hexNumber_hexDigits {n : Nat} (h : n < 256) (rest : Input) :
    hexNumber (some '0' :: some '0' :: some (hexDigit (n / 16)) ::
      some (hexDigit (n % 16)) :: rest) = .ok (n, rest) := by
  obtain ⟨hhigh, hhighSize⟩ := hexDigit_spec (n := n / 16) (by omega)
  obtain ⟨hlow, hlowSize⟩ := hexDigit_spec (n := n % 16) (by omega)
  have hzero : hexValue? '0' = some 0 := by decide
  have hzeroSize : ('0' : Char).utf8Size = 1 := by decide
  have hn : n / 16 * 16 + n % 16 = n := by omega
  unfold hexNumber
  simp [byteWidth, hhigh, hlow, hzero, hhighSize, hlowSize, hzeroSize, hn]

theorem unicodeEscape_hexDigits {c : Char} (h : c.toNat < 32) (rest : Input) :
    unicodeEscape (some '0' :: some '0' :: some (hexDigit (c.toNat / 16)) ::
      some (hexDigit (c.toNat % 16)) :: rest) = .ok (c, rest) := by
  have hlow : isLowSurrogate c.toNat = false := by
    simp only [isLowSurrogate, Bool.and_eq_false_iff, decide_eq_false_iff_not]
    omega
  have hhigh : isHighSurrogate c.toNat = false := by
    simp only [isHighSurrogate, Bool.and_eq_false_iff, decide_eq_false_iff_not]
    omega
  unfold unicodeEscape
  rw [hexNumber_hexDigits (by omega)]
  simp [bind, Except.bind, hlow, hhigh]

theorem quotedChars_escapeChar (n : Nat) (acc : List Char) (c : Char) (rest : Input) :
    quotedChars (n + 1) acc (Input.ofChars (escapeChar c) ++ rest) =
      quotedChars n (c :: acc) rest := by
  unfold escapeChar
  split
  · next h => subst h; rfl
  split
  · next h => subst h; rfl
  split
  · next h => subst h; rfl
  split
  · next h => subst h; rfl
  split
  · next h => subst h; rfl
  split
  · next h => subst h; rfl
  split
  · next h => subst h; rfl
  next hquote hbackslash _ _ _ _ _ =>
  split
  · next h =>
    simp [quotedChars, escaped, unicodeEscape_hexDigits h, Input.ofChars_nil]
  · next h =>
    simp [quotedChars, hquote, hbackslash, h, Input.ofChars_nil]

theorem quotedChars_escape {n : Nat} {cs : List Char} (hn : cs.length < n) (acc : List Char)
    (rest : Input) :
    quotedChars n acc (Input.ofChars (escape cs) ++ some '"' :: rest) =
      .ok (cs.reverse ++ acc, rest) := by
  induction cs generalizing n acc with
  | nil =>
    obtain ⟨m, rfl⟩ := Nat.exists_eq_succ_of_ne_zero (Nat.ne_of_gt hn)
    rfl
  | cons c cs ih =>
    obtain ⟨m, rfl⟩ := Nat.exists_eq_succ_of_ne_zero (Nat.ne_of_gt (Nat.zero_lt_of_lt hn))
    have hm : cs.length < m := by
      rw [List.length_cons] at hn
      omega
    have he : escape (c :: cs) = escapeChar c ++ escape cs := by simp [escape]
    rw [he, Input.ofChars_append, List.append_assoc, quotedChars_escapeChar, ih hm]
    simp

theorem quoted_escape (s : String) (rest : Input) :
    quoted (Input.ofChars (escape s.toList) ++ some '"' :: rest) = .ok (s, rest) := by
  have hlength : s.toList.length <
      (Input.ofChars (escape s.toList) ++ some '"' :: rest).length + 1 := by
    have h := length_le_length_escape s.toList
    rw [List.length_append, Input.length_ofChars]
    omega
  unfold quoted
  rw [quotedChars_escape hlength]
  simp [bind, Except.bind]

end Reader
end ContactHistory.Json
