import ContactHistory.Proofs.SocketAddress.Hosts

namespace ContactHistory.SocketAddress

open Text

/-- The number of a scope behind a percent sign, or nothing. -/
inductive WritesScope : List Char → UInt32 → Prop
  | none : WritesScope [] 0
  | some {ds : List Char} {scope : UInt32} (h : Numeral scopeForm ds scope.toNat) :
      WritesScope ('%' :: ds) scope

/-- The texts of a socket address: four octets, or an address of version 6 in brackets and perhaps
with a scope, and behind a colon the number of the service. -/
inductive Writes : List Char → SocketAddress → Prop
  | v4 {host port : List Char} {a b c d : UInt8} {service : UInt16} (h : Octets host (a, b, c, d))
      (hport : Numeral serviceForm port service.toNat) :
      Writes (host ++ ':' :: port) (.v4 a b c d service)
  | v6 {host zone port : List Char} {ip : Ipv6} {scope : UInt32} {service : UInt16}
      (h : WritesIp host ip) (hscope : WritesScope zone scope)
      (hport : Numeral serviceForm port service.toNat) :
      Writes ('[' :: (host ++ (zone ++ ']' :: ':' :: port))) (.v6 ip scope service)

variable {ds cs rest text : List Char} {service : UInt16} {scope : UInt32} {a : SocketAddress}

theorem scanService_of_numeral (h : Numeral serviceForm ds service.toNat) :
    scanService (':' :: ds) = some (service, []) := by
  have hends : EndsDigits 10 [] := by simp [EndsDigits]
  have hscan := scanNumber_append (by decide) h hends
  rw [List.append_nil] at hscan
  simp only [scanService, scanMark_cons, Option.bind_eq_bind, Option.bind_some, hscan,
    UInt16.ofNat_toNat]

theorem exists_service (h : scanService cs = some (service, rest)) :
    ∃ ds, cs = ':' :: (ds ++ rest) ∧ Numeral serviceForm ds service.toNat := by
  simp only [scanService, Option.bind_eq_bind, Option.bind_eq_some_iff, Prod.exists,
    scanMark_eq_some_iff, Option.some.injEq, Prod.mk.injEq] at h
  obtain ⟨_, rfl, n, _, hn, rfl, rfl⟩ := h
  obtain ⟨ds, rfl, hds, -⟩ := exists_numeral (by decide) hn
  refine ⟨ds, rfl, ?_⟩
  rwa [UInt16.toNat_ofNat_of_lt' (Nat.lt_succ_of_le hds.bound)]

theorem scanScope_append (h : WritesScope text scope) (cs : List Char) :
    scanScope (text ++ ']' :: cs) = (scope, ']' :: cs) := by
  cases h with
  | none => rfl
  | some h =>
    have hscan := scanNumber_append (by decide) h (endsDigits_cons (c := ']') (by decide) cs)
    simp only [scanScope, List.cons_append, scanMark_cons, Option.bind_some, hscan,
      UInt32.ofNat_toNat]

theorem exists_scope (cs : List Char) :
    ∃ text, cs = text ++ (scanScope cs).2 ∧ WritesScope text (scanScope cs).1 := by
  unfold scanScope
  split
  · next n rest h =>
    obtain ⟨start, hstart, hn⟩ := Option.bind_eq_some_iff.mp h
    obtain ⟨ds, rfl, hds, -⟩ := exists_numeral (by decide) hn
    refine ⟨'%' :: ds, scanMark_eq_some_iff.mp hstart, .some ?_⟩
    rwa [UInt32.toNat_ofNat_of_lt' (Nat.lt_succ_of_le hds.bound)]
  · exact ⟨[], rfl, .none⟩

theorem scanV4_bracket (cs : List Char) : scanV4 ('[' :: cs) = none := by
  have hends : EndsDigits 16 ('[' :: cs) := endsDigits_cons (by decide) cs
  simp only [scanV4, (scan_of_ends hends (by simp)).1, Option.bind_eq_bind, Option.bind_none]

theorem endsGroups_cons {c : Char} (h : digit? 16 c = none) (hpoint : c ≠ '.') (hcolon : c ≠ ':')
    (cs : List Char) : EndsGroups (c :: cs) where
  digits := endsDigits_cons h cs
  point := by simp [hpoint]
  colon ds h := absurd (List.cons.inj h).1 hcolon

theorem WritesScope.ends (h : WritesScope text scope) (cs : List Char) :
    EndsGroups (text ++ ']' :: cs) := by
  cases h with
  | none => exact endsGroups_cons (by decide) (by decide) (by decide) cs
  | some => exact endsGroups_cons (by decide) (by decide) (by decide) _

theorem scan_of_writes (h : Writes cs a) : (scanV4 cs).or (scanV6 cs) = some (a, []) := by
  cases h with
  | @v4 host port _ _ _ _ _ h hport =>
    have hends : EndsDigits 10 (':' :: port) := endsDigits_cons (by decide) port
    simp only [scanV4, scanOctets_append h hends, Option.bind_eq_bind, Option.bind_some,
      scanService_of_numeral hport, Option.some_or]
  | v6 h hscope hport =>
    rw [scanV4_bracket, Option.none_or]
    simp only [scanV6, scanMark_cons, scanIpv6_append h (hscope.ends _), scanScope_append hscope,
      scanService_of_numeral hport, Option.bind_eq_bind, Option.bind_some]

theorem writes_of_scanV4 (h : scanV4 cs = some (a, [])) : Writes cs a := by
  simp only [scanV4, Option.bind_eq_bind, Option.bind_eq_some_iff, Prod.exists, Option.some.injEq,
    Prod.mk.injEq] at h
  obtain ⟨_, _, _, _, _, hscan, _, _, hservice, rfl, rfl⟩ := h
  obtain ⟨host, rfl, hhost⟩ := exists_octets hscan
  obtain ⟨port, rfl, hport⟩ := exists_service hservice
  rw [List.append_nil]
  exact .v4 hhost hport

theorem writes_of_scanV6 (h : scanV6 cs = some (a, [])) : Writes cs a := by
  simp only [scanV6, Option.bind_eq_bind, Option.bind_eq_some_iff, Prod.exists, Option.some.injEq,
    Prod.mk.injEq, scanMark_eq_some_iff] at h
  obtain ⟨_, rfl, _, behind, hscan, _, hbracket, _, _, hservice, rfl, rfl⟩ := h
  obtain ⟨host, rfl, hhost⟩ := exists_ip hscan
  obtain ⟨zone, hbehind, hzone⟩ := exists_scope behind
  obtain ⟨port, rfl, hport⟩ := exists_service hservice
  rw [hbracket, List.append_nil] at hbehind
  generalize (scanScope behind).1 = scope at hzone ⊢
  rw [hbehind]
  exact .v6 hhost hzone hport

/-- What is read as a socket address is what writes it. -/
theorem read?_eq_some_iff {s : String} : read? s = some a ↔ Writes s.toList a := by
  constructor
  · intro h
    unfold read? at h
    split at h
    · next hscan =>
      cases h
      rcases Option.or_eq_some_iff.mp hscan with hscan | ⟨-, hscan⟩
      · exact writes_of_scanV4 hscan
      · exact writes_of_scanV6 hscan
    · cases h
  · intro h
    simp only [read?, scan_of_writes h]

example : read? "[1::2.3.4.5%07]:080" =
    some (.v6 ⟨[1, 0, 0, 0, 0, 0, 0x0203, 0x0405], rfl⟩ 7 80) := by decide

theorem Writes.unique {b : SocketAddress} (ha : Writes cs a) (hb : Writes cs b) : a = b := by
  have hscan := scan_of_writes ha
  rw [scan_of_writes hb, Option.some.injEq, Prod.mk.injEq] at hscan
  exact hscan.1.symm

theorem WritesScope.not_blank (h : WritesScope text scope) : ∀ c ∈ text, isBlank c = false := by
  cases h with
  | none => simp
  | some h => exact List.forall_mem_cons.mpr ⟨by decide, h.not_blank⟩

/-- A socket address has no blanks around it, nor any inside. -/
theorem Writes.not_blank (h : Writes cs a) : ∀ c ∈ cs, isBlank c = false := by
  cases h with
  | v4 h hport =>
    simp only [List.forall_mem_append, List.forall_mem_cons]
    exact ⟨h.not_blank, by decide, hport.not_blank⟩
  | v6 h hscope hport =>
    simp only [List.forall_mem_append, List.forall_mem_cons]
    exact ⟨by decide, h.not_blank, hscope.not_blank, by decide, by decide, hport.not_blank⟩

end ContactHistory.SocketAddress
