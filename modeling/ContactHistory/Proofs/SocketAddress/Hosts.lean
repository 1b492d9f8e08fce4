import ContactHistory.Proofs.SocketAddress.Numerals

namespace ContactHistory.SocketAddress

open Text

variable {ds cs rest : List Char} {n : Nat}

/-! ### Octets -/

inductive Octets : List Char → UInt8 × UInt8 × UInt8 × UInt8 → Prop
  | four {a b c d : UInt8} {as bs cs ds : List Char} (ha : Numeral octetForm as a.toNat)
      (hb : Numeral octetForm bs b.toNat) (hc : Numeral octetForm cs c.toNat)
      (hd : Numeral octetForm ds d.toNat) :
      Octets (as ++ '.' :: (bs ++ '.' :: (cs ++ '.' :: ds))) (a, b, c, d)

variable {text : List Char} {q : UInt8 × UInt8 × UInt8 × UInt8}

theorem Numeral.toNat_octet (h : Numeral octetForm ds n) : (UInt8.ofNat n).toNat = n :=
  UInt8.toNat_ofNat_of_lt' (Nat.lt_succ_of_le h.bound)

theorem scanOctets_append (h : Octets text q) (hrest : EndsDigits 10 rest) :
    scanOctets (text ++ rest) = some (q, rest) := by
  obtain ⟨ha, hb, hc, hd⟩ := h
  have hscan {ds rest : List Char} {n : Nat} (h : Numeral octetForm ds n)
      (hrest : EndsDigits 10 rest) : scanNumber octetForm (ds ++ rest) = some (n, rest) :=
    scanNumber_append (by decide) h hrest
  have hpoint (ds : List Char) : EndsDigits 10 ('.' :: ds) := endsDigits_cons (by decide) ds
  simp only [scanOctets, List.append_assoc, List.cons_append, hscan ha (hpoint _),
    hscan hb (hpoint _), hscan hc (hpoint _), hscan hd hrest, scanMark_cons, Option.bind_eq_bind,
    Option.bind_some, UInt8.ofNat_toNat]

theorem exists_octets (h : scanOctets cs = some (q, rest)) :
    ∃ text, cs = text ++ rest ∧ Octets text q := by
  unfold scanOctets at h
  simp only [Option.bind_eq_bind, Option.bind_eq_some_iff, Prod.exists, scanMark_eq_some_iff,
    Option.some.injEq, Prod.mk.injEq] at h
  obtain ⟨a, _, ha, _, rfl, b, _, hb, _, rfl, c, _, hc, _, rfl, d, _, hd, rfl, rfl⟩ := h
  obtain ⟨as, rfl, hna, -⟩ := exists_numeral (by decide) ha
  obtain ⟨bs, rfl, hnb, -⟩ := exists_numeral (by decide) hb
  obtain ⟨cs, rfl, hnc, -⟩ := exists_numeral (by decide) hc
  obtain ⟨ds, rfl, hnd, -⟩ := exists_numeral (by decide) hd
  refine ⟨as ++ '.' :: (bs ++ '.' :: (cs ++ '.' :: ds)), by simp, .four ?_ ?_ ?_ ?_⟩
  · rwa [hna.toNat_octet]
  · rwa [hnb.toNat_octet]
  · rwa [hnc.toNat_octet]
  · rwa [hnd.toNat_octet]

/-- Digits that no point follows are not the first of four octets. -/
theorem scanOctets_eq_none (hds : ∀ c ∈ ds, (digit? 16 c).isSome = true)
    (hrest : EndsDigits 16 rest) (hpoint : rest.head? ≠ some '.') :
    scanOctets (ds ++ rest) = none := by
  refine Option.eq_none_iff_forall_ne_some.mpr fun p h => hpoint ?_
  obtain ⟨q, rest'⟩ := p
  obtain ⟨text, htext, hoctets⟩ := exists_octets h
  cases hoctets with
  | @four _ _ _ _ as bs cs ds' ha =>
    rw [List.append_assoc, List.cons_append] at htext
    have hstart : EndsDigits 16 ('.' :: (bs ++ '.' :: (cs ++ '.' :: ds') ++ rest')) :=
      endsDigits_cons (by decide) _
    -- Both sides begin with a run of digits to the base 16, so these are the same.
    have hleft := takeWhile_digits hds hrest
    have hright := takeWhile_digits (ha.mono_base (by decide)) hstart
    rw [htext, hright] at hleft
    rw [hleft, List.append_cancel_left_eq] at htext
    rw [htext]
    rfl

theorem Octets.not_blank (h : Octets text q) : ∀ c ∈ text, isBlank c = false := by
  obtain ⟨ha, hb, hc, hd⟩ := h
  simp only [List.forall_mem_append, List.forall_mem_cons]
  exact ⟨ha.not_blank, by decide, hb.not_blank, by decide, hc.not_blank, by decide, hd.not_blank⟩

/-! ### Groups -/

def lead (first : Bool) : List Char := if first then [] else [':']

/-- Groups with colons in front of them, but for the first where nothing stands before it. Four
octets may stand for the last two groups, and `dotted` tells whether they do. -/
inductive Groups : Bool → List Char → List UInt16 → Bool → Prop
  | none (first : Bool) : Groups first [] [] false
  | octets {first : Bool} {text : List Char} {a b c d : UInt8} (h : Octets text (a, b, c, d)) :
      Groups first (lead first ++ text) (groupsOfOctets a b c d) true
  | group {first dotted : Bool} {text more : List Char} {g : UInt16} {gs : List UInt16}
      (h : Numeral groupForm text g.toNat) (hmore : Groups false more gs dotted) :
      Groups first (lead first ++ (text ++ more)) (g :: gs) dotted

/-- No group goes on in front of a text, and none begins there. -/
structure EndsGroups (cs : List Char) : Prop where
  digits : EndsDigits 16 cs
  point : cs.head? ≠ some '.'
  colon : ∀ ds, cs = ':' :: ds → EndsDigits 16 ds ∧ ds.head? ≠ some '.'

variable {first dotted : Bool} {gs : List UInt16}

theorem start_eq_some_iff {start : List Char} :
    (if first then some cs else scanMark ':' cs) = some start ↔ cs = lead first ++ start := by
  cases first with
  | true => simp [lead]
  | false => simp [lead, scanMark_eq_some_iff]

theorem exists_groups (n : Nat) (first : Bool) (cs : List Char) :
    ∃ text, cs = text ++ (scanGroups n first cs).2.2 ∧
      Groups first text (scanGroups n first cs).1 (scanGroups n first cs).2.1 ∧
      (scanGroups n first cs).1.length ≤ n := by
  induction n generalizing first cs with
  | zero => exact ⟨[], rfl, .none first, Nat.le_refl 0⟩
  | succ n ih =>
    unfold scanGroups
    dsimp only
    split
    · next a b c d rest hoctets =>
      rw [Option.ite_none_right_eq_some, Option.bind_eq_some_iff] at hoctets
      obtain ⟨hn, start, hstart, hoctets⟩ := hoctets
      obtain ⟨text, rfl, htext⟩ := exists_octets hoctets
      refine ⟨lead first ++ text, ?_, .octets htext, Nat.succ_le_succ hn⟩
      rw [List.append_assoc]
      exact start_eq_some_iff.mp hstart
    · split
      · next g rest hgroup =>
        obtain ⟨start, hstart, hgroup⟩ := Option.bind_eq_some_iff.mp hgroup
        obtain ⟨text, rfl, htext, -⟩ := exists_numeral (by decide) hgroup
        obtain ⟨more, hrest, hmore, hlength⟩ := ih false rest
        refine ⟨lead first ++ (text ++ more), ?_, .group ?_ hmore, Nat.succ_le_succ hlength⟩
        · rw [List.append_assoc, List.append_assoc, ← hrest]
          exact start_eq_some_iff.mp hstart
        · rwa [UInt16.toNat_ofNat_of_lt' (Nat.lt_succ_of_le htext.bound)]
      · exact ⟨[], rfl, .none first, Nat.zero_le _⟩

theorem scanGroups_octets {n : Nat} (hn : 0 < n) {start : List Char} {a b c d : UInt8}
    (h : scanOctets start = some ((a, b, c, d), rest)) :
    scanGroups (n + 1) first (lead first ++ start) = (groupsOfOctets a b c d, true, rest) := by
  simp only [scanGroups, start_eq_some_iff.mpr rfl, Option.bind_some, if_pos hn, h]

theorem scanGroups_group {n : Nat} {start : List Char} {g : Nat}
    (hoctets : scanOctets start = none) (h : scanNumber groupForm start = some (g, rest)) :
    scanGroups (n + 1) first (lead first ++ start) =
      (.ofNat g :: (scanGroups n false rest).1, (scanGroups n false rest).2) := by
  simp only [scanGroups, start_eq_some_iff.mpr rfl, Option.bind_some, hoctets, ite_self, h]

theorem scan_of_ends {start : List Char} (h : EndsDigits 16 start)
    (hpoint : start.head? ≠ some '.') :
    scanOctets start = none ∧ scanNumber groupForm start = none := by
  have hnone : ∀ c ∈ ([] : List Char), (digit? 16 c).isSome = true := by simp
  refine ⟨scanOctets_eq_none hnone h hpoint, ?_⟩
  refine Option.eq_none_iff_forall_ne_some.mpr fun p hp => ?_
  obtain ⟨n, rest⟩ := p
  exact ((scanNumber_of_digits (by decide) hnone h).mp hp).2.ne_nil rfl

theorem EndsGroups.scanGroups_eq (h : EndsGroups rest) (n : Nat) (first : Bool) :
    scanGroups n first rest = ([], false, rest) := by
  have hstart {start : List Char}
      (hs : (if first then some rest else scanMark ':' rest) = some start) :
      scanOctets start = none ∧ scanNumber groupForm start = none := by
    have hlead := start_eq_some_iff.mp hs
    cases first with
    | true =>
      obtain rfl : rest = start := hlead
      exact scan_of_ends h.digits h.point
    | false => exact scan_of_ends (h.colon start hlead).1 (h.colon start hlead).2
  cases n with
  | zero => rfl
  | succ n =>
    cases hs : (if first then some rest else scanMark ':' rest) with
    | none => simp only [scanGroups, hs, Option.bind_none, ite_self]
    | some start =>
      obtain ⟨hoctets, hgroup⟩ := hstart hs
      simp only [scanGroups, hs, Option.bind_some, hoctets, hgroup, ite_self]

/-- Digits of a group end where more groups follow, or none. -/
theorem Groups.ends (h : Groups false text gs dotted) (hrest : EndsGroups rest) :
    EndsDigits 16 (text ++ rest) ∧ (text ++ rest).head? ≠ some '.' := by
  cases h with
  | none => exact ⟨hrest.digits, hrest.point⟩
  | octets => exact ⟨endsDigits_cons (by decide) _, by simp [lead]⟩
  | group => exact ⟨endsDigits_cons (by decide) _, by simp [lead]⟩

theorem scanGroups_append (h : Groups first text gs dotted) (hrest : EndsGroups rest) {n : Nat}
    (hn : gs.length ≤ n) : scanGroups n first (text ++ rest) = (gs, dotted, rest) := by
  induction h generalizing n with
  | none first => exact hrest.scanGroups_eq n first
  | octets h =>
    rw [List.append_assoc]
    cases n with
    | zero => cases hn
    | succ n =>
      exact scanGroups_octets (Nat.le_of_succ_le_succ hn)
        (scanOctets_append h (hrest.digits.mono (by decide)))
  | group h hmore ih =>
    rw [List.append_assoc, List.append_assoc]
    cases n with
    | zero => cases hn
    | succ n =>
      obtain ⟨hdigits, hpoint⟩ := hmore.ends hrest
      have hoctets := scanOctets_eq_none (h.mono_base (by decide)) hdigits hpoint
      have hgroup := scanNumber_append (by decide) h hdigits
      rw [scanGroups_group hoctets hgroup, ih (Nat.le_of_succ_le_succ hn), UInt16.ofNat_toNat]

theorem Groups.not_blank (h : Groups first text gs dotted) : ∀ c ∈ text, isBlank c = false := by
  have hlead (first : Bool) : ∀ c ∈ lead first, isBlank c = false := by
    cases first with
    | true => simp [lead]
    | false => exact List.forall_mem_singleton.mpr (by decide)
  induction h with
  | none => simp
  | octets h =>
    rw [List.forall_mem_append]
    exact ⟨hlead _, h.not_blank⟩
  | group h _ ih =>
    simp only [List.forall_mem_append]
    exact ⟨hlead _, h.not_blank, ih⟩

/-! ### Addresses of version 6 -/

/-- Eight groups, or fewer around two colons, which stand for the groups of zeros that lack. -/
inductive WritesIp : List Char → Ipv6 → Prop
  | whole {text : List Char} {ip : Ipv6} {dotted : Bool} (h : Groups true text ip.groups dotted) :
      WritesIp text ip
  | shortened {fs bs : List Char} {front back : List UInt16} {dotted : Bool} {ip : Ipv6}
      (hfront : Groups true fs front false) (hback : Groups true bs back dotted)
      (hfew : front.length + back.length < 8)
      (hip : ip.groups =
        front ++ List.replicate (8 - front.length - back.length) 0 ++ back) :
      WritesIp (fs ++ ':' :: ':' :: bs) ip

variable {ip : Ipv6}

theorem length_shortened {front back : List UInt16} (h : front.length + back.length < 8) :
    (front ++ List.replicate (8 - front.length - back.length) 0 ++ back).length = 8 := by
  simp only [List.length_append, List.length_replicate]
  omega

theorem endsGroups_colons (cs : List Char) : EndsGroups (':' :: ':' :: cs) where
  digits := endsDigits_cons (by decide) _
  point := by simp
  colon ds h := by
    obtain rfl : ':' :: cs = ds := (List.cons.inj h).2
    exact ⟨endsDigits_cons (by decide) cs, by simp⟩

theorem scanIpv6_append (h : WritesIp text ip) (hrest : EndsGroups rest) :
    scanIpv6 (text ++ rest) = some (ip, rest) := by
  obtain ⟨groups, hlength⟩ := ip
  cases h with
  | whole h =>
    have hscan := scanGroups_append h hrest (Nat.le_of_eq hlength)
    simp only [scanIpv6, hscan, hlength, dite_true]
  | @shortened fs bs front back dotted _ hfront hback hfew hip =>
    obtain rfl := hip
    have hscan := scanGroups_append hfront (endsGroups_colons (bs ++ rest))
      (show front.length ≤ 8 by omega)
    have hscan' := scanGroups_append hback hrest (show back.length ≤ 7 - front.length by omega)
    have hne : front.length ≠ 8 := by omega
    rw [List.append_assoc, List.cons_append, List.cons_append]
    simp only [scanIpv6, hscan, hne, dite_false, Bool.false_eq_true, if_false, scanMark_cons,
      Option.bind_eq_bind, Option.bind_some, hscan', hlength, dite_true]

theorem exists_ip (h : scanIpv6 cs = some (ip, rest)) :
    ∃ text, cs = text ++ rest ∧ WritesIp text ip := by
  obtain ⟨fs, hcs, hfront, hlength⟩ := exists_groups 8 true cs
  unfold scanIpv6 at h
  revert h hcs hfront hlength
  generalize scanGroups 8 true cs = scanned
  obtain ⟨front, dotted, rest'⟩ := scanned
  intro h hcs hfront hlength
  dsimp only at hcs hfront hlength h
  split at h
  · cases h
    exact ⟨fs, hcs, .whole hfront⟩
  · split at h
    · cases h
    · next hne hdotted =>
      simp only [Option.bind_eq_bind, Option.bind_eq_some_iff, scanMark_eq_some_iff] at h
      obtain ⟨_, rfl, after, rfl, h⟩ := h
      obtain ⟨bs, hafter, hback, hlength'⟩ := exists_groups (7 - front.length) true after
      have hfew : front.length + (scanGroups (7 - front.length) true after).1.length < 8 := by
        omega
      rw [dif_pos (length_shortened hfew)] at h
      cases h
      rw [Bool.not_eq_true] at hdotted
      refine ⟨fs ++ ':' :: ':' :: bs, ?_, .shortened (hdotted ▸ hfront) hback hfew rfl⟩
      rw [hcs, List.append_assoc, List.cons_append, List.cons_append, ← hafter]

theorem WritesIp.not_blank (h : WritesIp text ip) : ∀ c ∈ text, isBlank c = false := by
  cases h with
  | whole h => exact h.not_blank
  | shortened hfront hback =>
    simp only [List.forall_mem_append, List.forall_mem_cons]
    exact ⟨hfront.not_blank, by decide, by decide, hback.not_blank⟩

end ContactHistory.SocketAddress
