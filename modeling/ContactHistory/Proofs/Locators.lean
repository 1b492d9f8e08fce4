import ContactHistory.Database.Location
import ContactHistory.Proofs.Digits
import ContactHistory.Proofs.FormRoundTrip
import ContactHistory.Proofs.HostNames
import Mathlib.Data.List.TakeWhile

namespace ContactHistory

open Text

namespace Locator

/-- A locator with all of its parts: the service and the path behind the host, and a form as the
query if it is not empty. -/
structure Written where
  scheme : String
  user : String
  password : String
  host : String
  service : Nat
  name : String
  form : List (String × String)

namespace Written

def query (form : List (String × String)) : List Char :=
  if form = [] then [] else '?' :: (Form.write form).toList

def behind (w : Written) : List Char :=
  '/' :: ((Percent.encode w.name).toList ++ query w.form)

def account (w : Written) : List Char :=
  (Percent.encode w.user).toList ++ ':' :: (Percent.encode w.password).toList

def place (w : Written) : List Char := w.host.toList ++ ':' :: Decimal.digits w.service

def text (w : Written) : String :=
  String.ofList (w.scheme.toList ++ ':' :: '/' :: '/' ::
    (w.account ++ '@' :: (w.place ++ w.behind)))

def kind (w : Written) : Kind := Kind.ofScheme (String.ofList (w.scheme.toList.map Char.toLower))

/-- The scheme is one, though not that of files, and the host is plain. -/
structure Plain (w : Written) : Prop where
  chars : ∀ c ∈ w.scheme.toList, Scheme.isSchemeChar c = true
  letter : w.scheme.toList.head?.any Char.isAlpha = true
  noFile : w.kind ≠ .file
  host : Host.Plain w.host
  worded : w.kind ≠ .other → Host.Worded w.host
  service : w.service ≤ 65535

variable {w : Written}

/-- The name of the host as it is read. -/
def hostName (w : Written) : String :=
  if w.kind = .other then w.host else String.ofList (w.host.toList.map Char.toLower)

theorem mem_query {form : List (String × String)} {c : Char} (h : c ∈ query form) :
    c = '?' ∨ Percent.isSafe c = true ∨ c = '=' ∨ c = '&' := by
  unfold query at h
  split at h
  · cases h
  · rcases List.mem_cons.mp h with rfl | h
    · exact .inl rfl
    · exact .inr (Form.mem_write h)

/-! ### Characters -/

theorem isSafe_of_isPlain {c : Char} (h : Host.isPlain c = true) : Percent.isSafe c = true :=
  (Bool.and_eq_true_iff.mp h).1

theorem isSafe_digits {n : Nat} {c : Char} (h : c ∈ Decimal.digits n) :
    Percent.isSafe c = true := by
  have hdigit := Decimal.isDigit_iff.mp (Decimal.isDigit_of_mem_digits h)
  simp only [Percent.isSafe, Bool.or_eq_true, Bool.and_eq_true, decide_eq_true_eq]
  omega

theorem ne_of_isSafe {c d : Char} (hc : Percent.isSafe c = true) (hd : Percent.isSafe d = false) :
    c ≠ d := by
  rintro rfl
  rw [hc] at hd
  cases hd

theorem isSafe_account {c : Char} (h : c ∈ w.account) : Percent.isSafe c = true ∨ c = ':' := by
  rw [account, List.mem_append, List.mem_cons] at h
  rcases h with h | rfl | h
  · exact .inl (Percent.isSafe_of_mem_encode h)
  · exact .inr rfl
  · exact .inl (Percent.isSafe_of_mem_encode h)

theorem isSafe_place (h : w.Plain) {c : Char} (hc : c ∈ w.place) :
    Percent.isSafe c = true ∨ c = ':' := by
  rw [place, List.mem_append, List.mem_cons] at hc
  rcases hc with hc | rfl | hc
  · exact .inl (isSafe_of_isPlain (h.host.chars c hc))
  · exact .inr rfl
  · exact .inl (isSafe_digits hc)

theorem isEnd_eq_false (k : Kind) {c : Char} (h : Percent.isSafe c = true ∨ c = ':') :
    k.isEnd c = false := by
  rcases h with h | rfl
  · have hslash := ne_of_isSafe h (d := '/') (by decide)
    have hquery := ne_of_isSafe h (d := '?') (by decide)
    have hfragment := ne_of_isSafe h (d := '#') (by decide)
    have hbackslash := ne_of_isSafe h (d := '\\') (by decide)
    simp [Kind.isEnd, hslash, hquery, hfragment, hbackslash]
  · cases k <;> rfl

theorem control_of_isSafe {c : Char} (h : Percent.isSafe c = true) :
    isControlOrSpace c = false := by
  simp only [Percent.isSafe, Bool.or_eq_true, Bool.and_eq_true, decide_eq_true_eq] at h
  rw [isControlOrSpace, decide_eq_false_iff_not]
  omega

theorem control_eq_false (h : w.Plain) {c : Char} (hc : c ∈ w.text.toList) :
    isControlOrSpace c = false := by
  have hscheme {d : Char} (hd : Scheme.isSchemeChar d = true) : isControlOrSpace d = false := by
    rw [isControlOrSpace, decide_eq_false_iff_not]
    intro hlow
    have hall : ∀ n ∈ List.range 0x21, Scheme.isSchemeChar (Char.ofNat n) = false := by decide
    have hnone := hall d.toNat (List.mem_range.mpr (by omega))
    rw [Char.ofNat_toNat, hd] at hnone
    cases hnone
  have hmark {d : Char} (hd : Percent.isSafe d = true ∨ d = ':') : isControlOrSpace d = false := by
    rcases hd with hd | rfl
    · exact control_of_isSafe hd
    · rfl
  simp only [text, behind, String.toList_ofList, List.mem_append, List.mem_cons] at hc
  rcases hc with hc | rfl | rfl | rfl | hc | rfl | hc | rfl | hc | hc
  · exact hscheme (h.chars c hc)
  · rfl
  · rfl
  · rfl
  · exact hmark (isSafe_account hc)
  · rfl
  · exact hmark (isSafe_place h hc)
  · rfl
  · exact control_of_isSafe (Percent.isSafe_of_mem_encode hc)
  · rcases mem_query hc with rfl | hc | rfl | rfl
    · rfl
    · exact control_of_isSafe hc
    · rfl
    · rfl

theorem trimmed_text (h : w.Plain) : trimmed w.text.toList = w.text.toList := by
  have hdrop {cs : List Char} (hcs : ∀ c ∈ cs, isControlOrSpace c = false) :
      cs.dropWhile isControlOrSpace = cs := by
    cases cs with
    | nil => rfl
    | cons c cs => exact List.dropWhile_cons_of_neg (by simp [hcs c List.mem_cons_self])
  rw [trimmed, hdrop fun c hc => control_eq_false h hc,
    hdrop fun c hc => control_eq_false h (List.mem_reverse.mp hc), List.reverse_reverse]

theorem significant_eq {cs : List Char} (h : ∀ c ∈ cs, isControlOrSpace c = false) :
    Path.significant cs = cs := by
  rw [Path.significant, List.filter_eq_self]
  intro c hc
  have hne {d : Char} (hd : isControlOrSpace d = true) : c ≠ d := by
    rintro rfl
    rw [h c hc] at hd
    cases hd
  simp [Path.isIgnored, hne (d := '\t') rfl, hne (d := '\n') rfl, hne (d := '\r') rfl]

/-! ### The authority -/

theorem split?_scheme (h : w.Plain) (rest : List Char) :
    Scheme.split? (w.scheme.toList ++ ':' :: rest) =
      some (String.ofList (w.scheme.toList.map Char.toLower), rest) := by
  have htake : (w.scheme.toList ++ ':' :: rest).takeWhile Scheme.isSchemeChar =
      w.scheme.toList := by
    rw [List.takeWhile_append_of_pos h.chars]
    exact List.append_nil _
  have hletter := h.letter
  unfold Scheme.split?
  simp only [htake, List.drop_left]
  cases hscheme : w.scheme.toList with
  | nil =>
    rw [hscheme] at hletter
    cases hletter
  | cons c cs =>
    rw [hscheme] at hletter
    exact if_pos hletter

theorem not_mem_place (h : w.Plain) : '@' ∉ w.place := by
  intro hc
  rcases isSafe_place h hc with hc | hc <;> cases hc

/-- The user and the password are parted from the place at the last at sign, and from each other at
the first colon. -/
theorem readUser_account (h : w.Plain) (k : Kind) :
    readUser k (w.account ++ '@' :: (w.place ++ w.behind)) =
      .ok ((Percent.encode w.user).toList, (Percent.encode w.password).toList,
        w.place ++ w.behind) := by
  have hinside : ∀ c ∈ w.account ++ '@' :: w.place, (!k.isEnd c) = true := by
    intro c hc
    rw [List.mem_append, List.mem_cons] at hc
    rcases hc with hc | rfl | hc
    · rw [isEnd_eq_false k (isSafe_account hc), Bool.not_false]
    · cases k <;> rfl
    · rw [isEnd_eq_false k (isSafe_place h hc), Bool.not_false]
  have hend : w.behind.takeWhile (!k.isEnd ·) = [] := by cases k <;> rfl
  have hauthority : (w.account ++ '@' :: (w.place ++ w.behind)).takeWhile (!k.isEnd ·) =
      w.account ++ '@' :: w.place := by
    rw [← List.cons_append, ← List.append_assoc, List.takeWhile_append_of_pos hinside, hend,
      List.append_nil]
  have hplace : ((w.account ++ '@' :: w.place).reverse.takeWhile
      (fun c => decide (c ≠ '@'))).reverse = w.place := by
    rw [List.reverse_append, List.reverse_cons, List.append_assoc, List.singleton_append,
      takeWhile_ne_append fun hc => not_mem_place h (List.mem_reverse.mp hc), List.reverse_reverse]
  have hlength : (w.account ++ '@' :: w.place).length - w.place.length = w.account.length + 1 := by
    rw [List.length_append, List.length_cons]
    omega
  have hrest : (w.account ++ '@' :: (w.place ++ w.behind)).drop (w.account.length + 1) =
      w.place ++ w.behind := by simp [List.drop_append]
  have haccount : (w.account ++ '@' :: w.place).take (w.account.length + 1 - 1) = w.account := by
    simp
  have huser : w.account.takeWhile (fun c => decide (c ≠ ':')) = (Percent.encode w.user).toList :=
    takeWhile_ne_append (Percent.not_mem_encode (by decide)) _
  have hpassword : w.account.drop ((Percent.encode w.user).toList.length + 1) =
      (Percent.encode w.password).toList := by simp [account, List.drop_append]
  have hempty : w.account.isEmpty = false := by simp [account]
  unfold readUser
  simp only [hauthority, hplace, hlength, hrest, haccount, huser, hpassword, hempty]
  simp

theorem hostLength_host {host : List Char} (h : ∀ c ∈ host, Host.isPlain c = true) (k : Kind)
    (rest : List Char) : hostLength k false (host ++ ':' :: rest) = host.length := by
  induction host with
  | nil => simp [hostLength]
  | cons c host ih =>
    have hc := isSafe_of_isPlain (h c List.mem_cons_self)
    rw [List.cons_append, hostLength, isEnd_eq_false k (.inl hc)]
    simp [ne_of_isSafe hc (d := ':') rfl, ne_of_isSafe hc (d := '[') rfl,
      ne_of_isSafe hc (d := ']') rfl, ih fun d hd => h d (List.mem_cons_of_mem _ hd)]

theorem readService_digit (n : Option Nat) {d : Char} (hd : Decimal.isDigit d = true)
    (hle : 10 * n.getD 0 + (d.toNat - '0'.toNat) ≤ 65535) (cs : List Char) :
    readService n (d :: cs) = readService (some (10 * n.getD 0 + (d.toNat - '0'.toNat))) cs := by
  have hdigit : d.isDigit = true := hd
  rw [readService, if_pos hdigit]
  exact if_neg (Nat.not_lt.mpr hle)

theorem readService_digits {ds : List Char} (hds : ∀ d ∈ ds, Decimal.isDigit d = true) {m : Nat}
    (hm : Nat.ofDigitChars 10 ds m ≤ 65535) (rest : List Char) :
    readService (some m) (ds ++ '/' :: rest) =
      .ok (some (Nat.ofDigitChars 10 ds m), '/' :: rest) := by
  induction ds generalizing m with
  | nil => rfl
  | cons d ds ih =>
    rw [Nat.ofDigitChars_cons] at hm ⊢
    have hle := Nat.le_trans (Decimal.le_ofDigitChars ds _) hm
    rw [List.cons_append, readService_digit (some m) (hds d List.mem_cons_self) hle]
    exact ih (fun c hc => hds c (List.mem_cons_of_mem _ hc)) hm

theorem readService_service (h : w.Plain) (rest : List Char) :
    readService none (Decimal.digits w.service ++ '/' :: rest) =
      .ok (some w.service, '/' :: rest) := by
  have hvalue : Nat.ofDigitChars 10 (Decimal.digits w.service) 0 = w.service :=
    Nat.ofDigitChars_ten_toDigits
  have hdigits : ∀ d ∈ Decimal.digits w.service, Decimal.isDigit d = true :=
    fun d => Decimal.isDigit_of_mem_digits
  have hservice := h.service
  cases hds : Decimal.digits w.service with
  | nil => exact absurd hds Nat.toDigits_ne_nil
  | cons d ds =>
    rw [hds] at hvalue hdigits
    rw [← hvalue, Nat.ofDigitChars_cons] at hservice ⊢
    have hle := Nat.le_trans (Decimal.le_ofDigitChars ds _) hservice
    rw [List.cons_append, readService_digit none (hdigits d List.mem_cons_self) hle]
    exact readService_digits (fun c hc => hdigits c (List.mem_cons_of_mem _ hc)) hservice rest

theorem readHost_host (h : w.Plain) : readHost w.kind w.host.toList = .ok (.name w.hostName) := by
  have hempty : w.host.toList.isEmpty = false := by
    rw [List.isEmpty_eq_false_iff, Ne, String.toList_eq_nil_iff]
    exact h.host.ne_empty
  unfold readHost hostName
  split
  · next hkind =>
    rw [if_pos hkind]
    exact Host.readOpaque_plain h.host
  · next hkind =>
    rw [if_neg hkind, hempty]
    exact Host.readWeb_plain h.host (h.worded hkind)

theorem hostName_plain (h : w.Plain) : Host.Plain w.hostName := by
  unfold hostName
  split
  · exact h.host
  · exact h.host.toLower

theorem readPlace_place (h : w.Plain) (hasUser : Bool) :
    readPlace w.kind hasUser (w.place ++ w.behind) =
      .ok (some (.name w.hostName), ownService w.kind (some w.service), w.behind) := by
  have hlength : hostLength w.kind false (w.place ++ w.behind) = w.host.toList.length := by
    rw [place, List.append_assoc, List.cons_append]
    exact hostLength_host h.host.chars _ _
  have htake : (w.place ++ w.behind).take w.host.toList.length = w.host.toList := by
    simp [place]
  have hdrop : (w.place ++ w.behind).drop w.host.toList.length =
      ':' :: (Decimal.digits w.service ++ w.behind) := by simp [place]
  have hnameless : (Host.name w.hostName == Host.name "") = false := by
    simpa using (hostName_plain h).ne_empty
  have hservice : readService none (Decimal.digits w.service ++ w.behind) =
      .ok (some w.service, w.behind) := readService_service h _
  unfold readPlace
  simp only [hlength, htake, hdrop, readHost_host h, bind, Except.bind, hnameless,
    Bool.false_eq_true, if_false, hservice]

/-! ### The path and the query -/

theorem pathChars_behind (w : Written) :
    pathChars w.behind = '/' :: (Percent.encode w.name).toList := by
  have hinside : ∀ c ∈ (Percent.encode w.name).toList, (c ≠ '?' && c ≠ '#') = true := by
    intro c hc
    have hsafe := Percent.isSafe_of_mem_encode hc
    simp [ne_of_isSafe hsafe (d := '?') rfl, ne_of_isSafe hsafe (d := '#') rfl]
  have hquery : (query w.form).takeWhile (fun c => c ≠ '?' && c ≠ '#') = [] := by
    unfold query
    split <;> rfl
  rw [pathChars, behind, List.takeWhile_cons_of_pos rfl, List.takeWhile_append_of_pos hinside,
    hquery, List.append_nil]

/-- A segment of plain path characters is added to the first slash, unless it is of dots only. -/
theorem step_segment {segment : List Char} (hcolon : ':' ∉ segment)
    (hsignificant : Path.significant segment = segment) :
    ∃ rest, (Path.step false ⟨['/'], true⟩ segment false).path = '/' :: rest ∧
      (rest = [] ∨ rest = segment) := by
  have hname : Path.isPlainDrive (segment.take 2) = false := by
    unfold Path.isPlainDrive
    split
    · next c htake =>
      have hmem : ':' ∈ segment.take 2 := by simp [htake]
      exact absurd (List.mem_of_mem_take hmem) hcolon
    · rfl
  have hdrive : Path.partedDrive? segment = none := by
    unfold Path.partedDrive?
    simp [hsignificant, hname]
  unfold Path.step
  rw [hdrive, hsignificant]
  change ∃ rest, (Path.stepPlain false ⟨['/'], true⟩ segment []).path = '/' :: rest ∧ _
  unfold Path.stepPlain
  split
  · exact ⟨[], by decide, .inl rfl⟩
  · split
    · exact ⟨[], by decide, .inl rfl⟩
    · refine ⟨segment, ?_, .inr rfl⟩
      simp

theorem pathBehind_behind (w : Written) (k : Kind) :
    ∃ segment, pathBehind k w.behind = '/' :: segment ∧
      (segment = [] ∨ segment = (Percent.encode w.name).toList) := by
  have hne {d : Char} (hd : Percent.isSafe d = false) : d ∉ (Percent.encode w.name).toList :=
    Percent.not_mem_encode hd
  have hsignificant : Path.significant (Percent.encode w.name).toList =
      (Percent.encode w.name).toList :=
    significant_eq fun c hc => control_of_isSafe (Percent.isSafe_of_mem_encode hc)
  have hbackslash : (Percent.encode w.name).toList.map (fun c => if c = '\\' then '/' else c) =
      (Percent.encode w.name).toList := by
    refine (List.map_congr_left fun c hc => if_neg ?_).trans (List.map_id' _)
    rintro rfl
    exact hne (by decide) hc
  have hread : Path.read false k.hasBackslash ⟨['/'], true⟩ (Percent.encode w.name).toList =
      Path.step false ⟨['/'], true⟩ (Percent.encode w.name).toList false := by
    unfold Path.read
    simp only [hbackslash, ite_self, splitAll_of_not_mem (hne (d := '/') (by decide)), Path.steps]
  have hpath : pathBehind k w.behind =
      (Path.step false ⟨['/'], true⟩ (Percent.encode w.name).toList false).path := by
    unfold pathBehind
    rw [pathChars_behind]
    cases k <;> simp [Kind.isSlash, ← hread]
  rw [hpath]
  exact step_segment (hne (by decide)) hsignificant

theorem queryOf?_behind (w : Written) :
    queryOf? w.behind = if w.form = [] then none else some (Form.write w.form) := by
  have hdrop : w.behind.drop (pathChars w.behind).length = query w.form := by
    rw [pathChars_behind, behind]
    simp
  unfold queryOf?
  rw [hdrop, query]
  by_cases hform : w.form = []
  · rw [if_pos hform, if_pos hform]
  · have hinside : ∀ c ∈ (Form.write w.form).toList, isControlOrSpace c = false ∧ c ≠ '#' := by
      intro c hc
      rcases Form.mem_write hc with hc | rfl | rfl
      · exact ⟨control_of_isSafe hc, ne_of_isSafe hc rfl⟩
      · decide
      · decide
    have htake : (Form.write w.form).toList.takeWhile (fun c => decide (c ≠ '#')) =
        (Form.write w.form).toList :=
      List.takeWhile_eq_self_iff.mpr fun c hc => decide_eq_true (hinside c hc).2
    rw [if_neg hform, if_neg hform]
    change some (String.ofList (Path.significant (List.takeWhile _ _))) = _
    rw [htake, significant_eq fun c hc => (hinside c hc).1, String.ofList_toList]

/-! ### The whole -/

theorem read_eq_readAuthority (h : w.Plain) :
    Locator.read w.text = readAuthority w.kind (w.account ++ '@' :: (w.place ++ w.behind)) := by
  have hlist : w.text.toList = w.scheme.toList ++ ':' :: '/' :: '/' ::
      (w.account ++ '@' :: (w.place ++ w.behind)) := String.toList_ofList
  have hsignificant := significant_eq fun c hc => control_eq_false h hc
  have hsplit := split?_scheme h ('/' :: '/' :: (w.account ++ '@' :: (w.place ++ w.behind)))
  have hkind : Kind.ofScheme (String.ofList (w.scheme.toList.map Char.toLower)) = w.kind := rfl
  unfold Locator.read
  simp only [trimmed_text h, hsignificant]
  rw [hlist, hsplit]
  simp only [hkind]
  split
  · next n hweb =>
    -- On the web any number of slashes stands in front of an authority.
    have hslashes : (w.account ++ '@' :: (w.place ++ w.behind)).dropWhile
        (fun c => decide (c = '/') || decide (c = '\\')) =
        w.account ++ '@' :: (w.place ++ w.behind) := by
      cases haccount : w.account with
      | nil => simp [account] at haccount
      | cons c cs =>
        refine List.dropWhile_cons_of_neg ?_
        rcases isSafe_account (w := w) (haccount ▸ List.mem_cons_self) with hc | rfl
        · simp [ne_of_isSafe hc (d := '/') rfl, ne_of_isSafe hc (d := '\\') rfl]
        · decide
    rw [List.dropWhile_cons_of_pos rfl, List.dropWhile_cons_of_pos rfl, hslashes, hweb]
  · next hfile => exact absurd hfile h.noFile
  · next hother => rw [hother]

/-- A written locator is read as its parts. The user and the password are still written with percent
signs, and the path is empty if the name is of dots only. -/
theorem read_text (h : w.Plain) :
    ∃ u, Locator.read w.text = .ok u ∧ u.user = Percent.encode w.user ∧
      u.password = Percent.encode w.password ∧ u.host = some (.name w.hostName) ∧
      u.service = ownService w.kind (some w.service) ∧
      (u.path = "/" ∨ u.path = "/" ++ Percent.encode w.name) ∧
      u.query = if w.form = [] then none else some (Form.write w.form) := by
  obtain ⟨segment, hpath, hsegment⟩ := pathBehind_behind w w.kind
  rw [read_eq_readAuthority h]
  unfold readAuthority
  simp only [readUser_account h, bind, Except.bind, readPlace_place h, hpath, queryOf?_behind,
    String.ofList_toList]
  refine ⟨_, rfl, rfl, rfl, rfl, rfl, ?_, rfl⟩
  rcases hsegment with rfl | rfl
  · exact .inl rfl
  · exact .inr (by simp [String.ofList_cons])

end Written
end Locator

namespace Database.Location

open Locator

/-- The location that a written locator tells without its query. -/
def ofWritten (w : Written) : Location :=
  ⟨w.hostName, none, (ownService w.kind (some w.service)).getD standard.service⟩

theorem dropWhile_encode (s : String) :
    (Percent.encode s).toList.dropWhile (fun c => decide (c = '/')) =
      (Percent.encode s).toList := by
  have hslash : '/' ∉ (Percent.encode s).toList := Percent.not_mem_encode (by decide)
  cases hs : (Percent.encode s).toList with
  | nil => rfl
  | cons c cs =>
    refine List.dropWhile_cons_of_neg ?_
    intro hc
    rw [hs, of_decide_eq_true hc] at hslash
    exact hslash List.mem_cons_self

/-- A database is looked for at the host and the service of its locator, whatever the user, the
password and the name are, and what the query tells takes their place in its order. -/
theorem read_written {w : Written} (h : w.Plain) :
    read w.text = (w.form.foldlM setPair (ofWritten w)).mapError .configuration := by
  obtain ⟨u, hu, huser, hpassword, hhost, hservice, hpath, hquery⟩ := Written.read_text h
  have htext (s : String) : readText (Percent.encode s) = .ok s := by
    rw [readText, Percent.decode_encode, Utf8.read_encode]
    rfl
  have hhostName : standard.setHost (.name w.hostName) =
      .ok { standard with host := w.hostName } :=
    if_neg (Written.hostName_plain h).head?_decode_ne
  have hname : ∃ t, readText (String.ofList (u.path.toList.dropWhile (· = '/'))) = .ok t := by
    rcases hpath with hpath | hpath
    · exact ⟨"", by rw [hpath]; exact htext ""⟩
    · refine ⟨w.name, ?_⟩
      rw [hpath, String.toList_append]
      change readText (String.ofList (List.dropWhile _ ('/' :: (Percent.encode w.name).toList))) = _
      rw [List.dropWhile_cons_of_pos (by decide), dropWhile_encode, String.ofList_toList, htext]
  have hpairs : Form.pairs (u.query.getD "") = w.form := by
    rw [hquery]
    split
    · next hform => rw [hform]; rfl
    · exact Form.pairs_write w.form
  obtain ⟨t, ht⟩ := hname
  unfold read
  rw [hu]
  change (ofLocator u).mapError _ = _
  unfold ofLocator
  rw [hhost]
  simp only [hhostName, huser, hpassword, htext, ht, hpairs, hservice, bind, Except.bind]
  rfl

example : read "postgres://me:p%40ss%2F@db:5433/events?host=/run/sockets" =
    .ok ⟨"db", some "/run/sockets", 5433⟩ := by decide +kernel

end Database.Location
end ContactHistory
