import ContactHistory.Proofs.CommaLists
import ContactHistory.Proofs.SocketAddress.Texts
import ContactHistory.Proofs.Traversal
import ContactHistory.Settings

namespace ContactHistory

open Text

namespace Variable

/-- The variable holds no text, or a blank one. -/
def IsBlank (v : Variable) : Prop := ∀ s, v = .text s → ∀ c ∈ s.toList, isBlank c = true

theorem text?_eq_some_iff {v : Variable} {s : String} : v.text? = some s ↔ v = .text s := by
  cases v <;> simp [text?]

theorem text?_eq_none_iff {v : Variable} : v.text? = none ↔ ∀ s, v ≠ .text s := by
  cases v <;> simp [text?]

theorem trimmed?_eq_some_iff {v : Variable} {t : String} :
    v.trimmed? = some t ↔ ∃ s, v = .text s ∧ trimmed s = t ∧ t ≠ "" := by
  simp only [trimmed?, Option.filter_eq_some_iff, Option.map_eq_some_iff, text?_eq_some_iff,
    decide_eq_true_eq, ← exists_and_right, and_assoc]

theorem isBlank_text_iff {s : String} : (text s).IsBlank ↔ trimmed s = "" := by
  rw [trimmed_eq_empty, trim_eq_nil_iff]
  exact ⟨fun h => h s rfl, fun h t ht => text.inj ht ▸ h⟩

theorem trimmed?_eq_none_iff {v : Variable} : v.trimmed? = none ↔ v.IsBlank := by
  rw [Option.eq_none_iff_forall_ne_some]
  simp only [ne_eq, trimmed?_eq_some_iff, not_exists, not_and, not_not]
  constructor
  · intro h s hv
    exact isBlank_text_iff.mpr (h _ s hv rfl) s rfl
  · rintro h t s rfl rfl
    exact isBlank_text_iff.mp h

/-- A variable that is set to a text has its entries. Trimming the whole text first is of no
consequence, for blanks at its ends are blanks around its first and its last entry. -/
theorem entries_text (raw : String) : (text raw).entries = CommaList.entries raw := by
  by_cases hblank : trimmed raw = ""
  · have hnone : (text raw).trimmed? = none := by simp [trimmed?, text?, hblank]
    rw [entries, hnone, ← CommaList.entries_trimmed, hblank]
    decide
  · have hsome : (text raw).trimmed? = some (trimmed raw) := by
      simp [trimmed?, text?, hblank]
    rw [entries, hsome, Option.map_some, Option.getD_some, CommaList.entries_trimmed]

end Variable

/-- The message of an error names the variable that it is about. -/
theorem SettingsError.variableName_infix_message (e : SettingsError) :
    e.variableName.toList <:+: e.message.toList := by
  have hback (s back : String) : s.toList <:+: (s ++ back).toList := by
    rw [String.toList_append]
    exact (List.prefix_append _ _).isInfix
  have hfront (front s : String) : s.toList <:+: (front ++ s).toList := by
    rw [String.toList_append]
    exact (List.suffix_append _ _).isInfix
  have hbetween (front s back more : String) : s.toList <:+: (front ++ s ++ back ++ more).toList :=
    ((hfront front s).trans (hback _ back)).trans (hback _ more)
  cases e with
  | missing name => exact hfront _ name
  | notText name => exact hfront _ name
  | badSocketAddress name => exact hbetween _ name _ _
  | badValue name fault => exact hbetween _ name _ _

namespace Environment

variable {env : Environment} {name : String} {e : SettingsError}

theorem variableName_of_required (h : env.required name = .error e) : e.variableName = name := by
  unfold required at h
  split at h <;> cases h <;> rfl

theorem variableName_of_socketAddress {default : String}
    (h : env.socketAddress name default = .error e) : e.variableName = name := by
  unfold socketAddress at h
  split at h <;> cases h
  rfl

theorem variableName_of_value {α : Type} {read : String → Except ValueFault α} {default : α}
    (h : env.value read name default = .error e) : e.variableName = name := by
  unfold value at h
  split at h
  · cases h
  · obtain ⟨fault, -, rfl⟩ := mapError_eq_error_iff.mp h
    rfl

end Environment

namespace Settings

/-- The address that a variable gives: the one that it holds and nothing else, or the default where
it holds no text. -/
inductive GivesAddress : Variable → SocketAddress → Prop
  | default {v : Variable} (h : ∀ s, v ≠ .text s) : GivesAddress v (.v4 0 0 0 0 8090)
  | held {s : String} {a : SocketAddress} (h : SocketAddress.Writes s.toList a) :
      GivesAddress (.text s) a

/-- The number of connections that a variable gives: the one between its blanks, if 32 bits hold it,
or the default where there is none. -/
inductive GivesMaximum : Variable → Nat → Prop
  | default {v : Variable} (h : v.IsBlank) : GivesMaximum v 10
  | held {s : String} {n : Nat} (h : Decimal.WritesNat n (trim s.toList)) (hn : n < UInt32.size) :
      GivesMaximum (.text s) n

/-- The database of the index that a variable gives, without the blanks around it. -/
inductive GivesIndexUrl : Variable → Option String → Prop
  | absent {v : Variable} (h : v.IsBlank) : GivesIndexUrl v none
  | held {s : String} (h : ¬(Variable.text s).IsBlank) : GivesIndexUrl (.text s) (some (trimmed s))

/-- The sources that a variable gives: what stands between its commas, without the blanks around it
and where it is not blank. -/
inductive GivesSources : Variable → List String → Prop
  | absent {v : Variable} (h : ∀ s, v ≠ .text s) : GivesSources v []
  | held (s : String) :
      GivesSources (.text s) (CommaList.present ((s.toList.splitOn ',').map String.ofList))

structure FromVariables (env : Environment) (s : Settings) : Prop where
  address : GivesAddress (env addressName) s.address
  databaseUrl : env databaseUrlName = .text s.databaseUrl
  indexUrl : GivesIndexUrl (env indexUrlName) s.indexUrl
  maxConnections : GivesMaximum (env maxConnectionsName) s.maxConnections
  defaultSources : GivesSources (env defaultSourcesName) s.defaultSources

theorem socketAddress_eq_ok_iff {env : Environment} {name : String} {a : SocketAddress} :
    env.socketAddress name defaultAddress = .ok a ↔ GivesAddress (env name) a := by
  have hread : env.socketAddress name defaultAddress = .ok a ↔
      SocketAddress.read? ((env name).text?.getD defaultAddress) = some a := by
    unfold Environment.socketAddress
    split <;> simp [*]
  rw [hread]
  generalize env name = v
  cases hv : v.text? with
  | none =>
    have hdefault : SocketAddress.read? defaultAddress = some (.v4 0 0 0 0 8090) := by decide
    rw [Option.getD_none, hdefault]
    constructor
    · intro h
      cases h
      exact .default (Variable.text?_eq_none_iff.mp hv)
    · intro h
      cases h with
      | default => rfl
      | held => cases hv
  | some s =>
    obtain rfl := Variable.text?_eq_some_iff.mp hv
    rw [Option.getD_some, SocketAddress.read?_eq_some_iff]
    constructor
    · exact .held
    · intro h
      cases h with
      | default h => exact absurd rfl (h s)
      | held h => exact h

theorem required_eq_ok_iff {env : Environment} {name s : String} :
    env.required name = .ok s ↔ env name = .text s := by
  unfold Environment.required
  split <;> simp [*]

theorem value_eq_ok_iff {env : Environment} {name : String} {n : Nat} :
    env.value (ValueFault.readNat (UInt32.size - 1)) name defaultMaxConnections = .ok n ↔
      GivesMaximum (env name) n := by
  unfold Environment.value
  generalize env name = v
  split
  · next h =>
    constructor
    · intro hn
      cases hn
      exact .default (Variable.trimmed?_eq_none_iff.mp h)
    · intro hn
      cases hn with
      | default => rfl
      | held hwrites =>
        have hempty := Variable.isBlank_text_iff.mp (Variable.trimmed?_eq_none_iff.mp h)
        exact absurd (trimmed_eq_empty.mp hempty) hwrites.ne_nil
  · next t h =>
    obtain ⟨s, rfl, rfl, hne⟩ := Variable.trimmed?_eq_some_iff.mp h
    rw [mapError_eq_ok_iff, ValueFault.readNat, mapError_eq_ok_iff, toList_trimmed,
      Decimal.readNat_eq_ok_iff]
    constructor
    · rintro ⟨hwrites, hn⟩
      exact .held hwrites (Nat.lt_of_le_pred (by decide) hn)
    · intro hn
      cases hn with
      | default hblank => exact absurd (Variable.isBlank_text_iff.mp hblank) hne
      | held hwrites hn => exact ⟨hwrites, Nat.le_pred_of_lt hn⟩

theorem GivesAddress.unique {v : Variable} {a b : SocketAddress} (ha : GivesAddress v a)
    (hb : GivesAddress v b) : a = b := by
  have hread : Environment.socketAddress (fun _ => v) "" defaultAddress = .ok a :=
    socketAddress_eq_ok_iff.mpr ha
  rw [socketAddress_eq_ok_iff.mpr hb] at hread
  exact (Except.ok.inj hread).symm

theorem GivesMaximum.unique {v : Variable} {m n : Nat} (hm : GivesMaximum v m)
    (hn : GivesMaximum v n) : m = n := by
  have hread : Environment.value (fun _ => v) (ValueFault.readNat (UInt32.size - 1)) ""
      defaultMaxConnections = .ok m := value_eq_ok_iff.mpr hm
  rw [value_eq_ok_iff.mpr hn] at hread
  exact (Except.ok.inj hread).symm

theorem trimmed?_eq_iff {v : Variable} {url : Option String} :
    v.trimmed? = url ↔ GivesIndexUrl v url := by
  constructor
  · rintro rfl
    cases h : v.trimmed? with
    | none => exact .absent (Variable.trimmed?_eq_none_iff.mp h)
    | some t =>
      obtain ⟨s, rfl, rfl, hne⟩ := Variable.trimmed?_eq_some_iff.mp h
      exact .held fun hblank => hne (Variable.isBlank_text_iff.mp hblank)
  · intro h
    cases h with
    | absent h => exact Variable.trimmed?_eq_none_iff.mpr h
    | held hne =>
      exact Variable.trimmed?_eq_some_iff.mpr
        ⟨_, rfl, rfl, fun he => hne (Variable.isBlank_text_iff.mpr he)⟩

theorem entries_eq_iff {v : Variable} {sources : List String} :
    v.entries = sources ↔ GivesSources v sources := by
  have hheld (s : String) : (Variable.text s).entries =
      CommaList.present ((s.toList.splitOn ',').map String.ofList) := by
    rw [Variable.entries_text, CommaList.entries_eq_present, splitAll_eq_splitOn]
  constructor
  · rintro rfl
    cases v with
    | text s => exact hheld s ▸ .held s
    | unset => exact .absent nofun
    | bytes pieces => exact .absent nofun
  · intro h
    cases h with
    | held s => exact hheld s
    | absent h =>
      have hnone : v.trimmed? = none :=
        Variable.trimmed?_eq_none_iff.mpr fun s hv => absurd hv (h s)
      rw [Variable.entries, hnone]
      rfl

/-- Settings are loaded if each of them is given by its variable. -/
theorem load_eq_ok_iff {env : Environment} {s : Settings} :
    load env = .ok s ↔ FromVariables env s := by
  unfold load
  simp only [bind_eq_ok_iff, socketAddress_eq_ok_iff, required_eq_ok_iff, value_eq_ok_iff]
  constructor
  · rintro ⟨address, haddress, url, hurl, maximum, hmaximum, h⟩
    cases h
    exact ⟨haddress, hurl, trimmed?_eq_iff.mp rfl, hmaximum, entries_eq_iff.mp rfl⟩
  · intro h
    refine ⟨s.address, h.address, s.databaseUrl, h.databaseUrl, s.maxConnections,
      h.maxConnections, ?_⟩
    rw [trimmed?_eq_iff.mpr h.indexUrl, entries_eq_iff.mpr h.defaultSources]

/-! ### Variables that have to fit -/

structure Requirement where
  name : String
  fits : Variable → Prop

/-- The variable holds no text, or one that is a socket address without blanks around it. -/
def HoldsAddress (v : Variable) : Prop :=
  ∀ s, v = .text s → trimmed s = s ∧ ∃ a, SocketAddress.Writes s.toList a

/-- The variable holds no text or a blank one, or between blanks the digits, perhaps behind a plus
sign, of a number that 32 bits hold. -/
def HoldsMaximum (v : Variable) : Prop :=
  v.IsBlank ∨ ∃ s n, v = .text s ∧ Decimal.WritesNat n (trim s.toList) ∧ n < UInt32.size

/-- What has to fit for settings to be loaded, in the order in which it is looked at. -/
def requirements : List Requirement :=
  [⟨addressName, HoldsAddress⟩, ⟨databaseUrlName, fun v => ∃ s, v = .text s⟩,
    ⟨maxConnectionsName, HoldsMaximum⟩]

/-- The requirement is not met, and all in front of it are. -/
def FirstUnmet (env : Environment) (r : Requirement) : Prop :=
  ∃ front rest, requirements = front ++ r :: rest ∧ (∀ q ∈ front, q.fits (env q.name)) ∧
    ¬r.fits (env r.name)

theorem exists_givesAddress_iff {v : Variable} : (∃ a, GivesAddress v a) ↔ HoldsAddress v := by
  constructor
  · rintro ⟨a, h⟩ s rfl
    cases h with
    | default hne => exact absurd rfl (hne s)
    | held h =>
      have htrim : trimmed s = s := by
        rw [trimmed, trim_of_not_blank h.not_blank, String.ofList_toList]
      exact ⟨htrim, a, h⟩
  · intro h
    cases hv : v.text? with
    | none => exact ⟨_, .default (Variable.text?_eq_none_iff.mp hv)⟩
    | some s =>
      obtain rfl := Variable.text?_eq_some_iff.mp hv
      obtain ⟨-, a, ha⟩ := h s rfl
      exact ⟨a, .held ha⟩

theorem exists_givesMaximum_iff {v : Variable} : (∃ n, GivesMaximum v n) ↔ HoldsMaximum v := by
  constructor
  · rintro ⟨n, h⟩
    cases h with
    | default h => exact .inl h
    | held h hn => exact .inr ⟨_, n, rfl, h, hn⟩
  · rintro (h | ⟨s, n, rfl, h, hn⟩)
    · exact ⟨10, .default h⟩
    · exact ⟨n, .held h hn⟩

theorem exists_load_eq_ok_iff {env : Environment} :
    (∃ s, load env = .ok s) ↔ ∀ r ∈ requirements, r.fits (env r.name) := by
  simp only [requirements, List.forall_mem_cons, ← exists_givesAddress_iff,
    ← exists_givesMaximum_iff]
  constructor
  · rintro ⟨s, hs⟩
    have h := load_eq_ok_iff.mp hs
    exact ⟨⟨_, h.address⟩, ⟨_, h.databaseUrl⟩, ⟨_, h.maxConnections⟩, by simp⟩
  · rintro ⟨⟨address, ha⟩, ⟨url, hurl⟩, ⟨maximum, hm⟩, -⟩
    exact ⟨⟨address, url, _, maximum, _⟩,
      load_eq_ok_iff.mpr ⟨ha, hurl, trimmed?_eq_iff.mp rfl, hm, entries_eq_iff.mp rfl⟩⟩

/-- A load that fails names the first variable that does not hold what it has to. -/
theorem firstUnmet_of_error {env : Environment} {e : SettingsError} (h : load env = .error e) :
    ∃ r, FirstUnmet env r ∧ e.variableName = r.name := by
  rcases bind_eq_error_iff.mp h with haddress | ⟨address, haddress, h⟩
  · refine ⟨_, ⟨[], _, rfl, by simp, fun hfits => ?_⟩,
      Environment.variableName_of_socketAddress haddress⟩
    obtain ⟨a, ha⟩ := exists_givesAddress_iff.mpr hfits
    rw [← socketAddress_eq_ok_iff, haddress] at ha
    cases ha
  have haddress : HoldsAddress (env addressName) :=
    exists_givesAddress_iff.mp ⟨address, socketAddress_eq_ok_iff.mp haddress⟩
  rcases bind_eq_error_iff.mp h with hurl | ⟨url, hurl, h⟩
  · refine ⟨_, ⟨[_], _, rfl, List.forall_mem_singleton.mpr haddress, fun hfits => ?_⟩,
      Environment.variableName_of_required hurl⟩
    obtain ⟨s, hs⟩ := hfits
    rw [← required_eq_ok_iff, hurl] at hs
    cases hs
  have hurl : ∃ s, env databaseUrlName = .text s := ⟨url, required_eq_ok_iff.mp hurl⟩
  rcases bind_eq_error_iff.mp h with hmaximum | ⟨maximum, hmaximum, h⟩
  · refine ⟨_, ⟨[_, _], _, rfl,
      List.forall_mem_cons.mpr ⟨haddress, List.forall_mem_singleton.mpr hurl⟩, fun hfits => ?_⟩,
      Environment.variableName_of_value hmaximum⟩
    obtain ⟨n, hn⟩ := exists_givesMaximum_iff.mpr hfits
    rw [← value_eq_ok_iff, hmaximum] at hn
    cases hn
  · cases h

/-- Settings are loaded exactly where the variables of the address, of the database and of the
number of connections hold what they have to; an error names the first that does not. Each setting
comes from its own variable and depends on no other. -/
theorem load_reads_variables (env : Environment) :
    (∀ s, load env = .ok s ↔ FromVariables env s) ∧
    ((∃ s, load env = .ok s) ↔ ∀ r ∈ requirements, r.fits (env r.name)) ∧
    (∀ e, load env = .error e → ∃ r, FirstUnmet env r ∧ e.variableName = r.name ∧
      r.name.toList <:+: e.message.toList) ∧
    ∀ env' s s', load env = .ok s → load env' = .ok s' →
      (env addressName = env' addressName → s.address = s'.address) ∧
      (env databaseUrlName = env' databaseUrlName → s.databaseUrl = s'.databaseUrl) ∧
      (env indexUrlName = env' indexUrlName → s.indexUrl = s'.indexUrl) ∧
      (env maxConnectionsName = env' maxConnectionsName → s.maxConnections = s'.maxConnections) ∧
      (env defaultSourcesName = env' defaultSourcesName →
        s.defaultSources = s'.defaultSources) := by
  refine ⟨fun s => load_eq_ok_iff, exists_load_eq_ok_iff, fun e he => ?_, ?_⟩
  · obtain ⟨r, hr, hname⟩ := firstUnmet_of_error he
    exact ⟨r, hr, hname, hname ▸ e.variableName_infix_message⟩
  · intro env' s s' hs hs'
    have h := load_eq_ok_iff.mp hs
    have h' := load_eq_ok_iff.mp hs'
    refine ⟨fun he => ?_, fun he => ?_, fun he => ?_, fun he => ?_, fun he => ?_⟩
    · exact (he ▸ h.address).unique h'.address
    · rw [h.databaseUrl, h'.databaseUrl] at he
      exact Variable.text.inj he
    · rw [← trimmed?_eq_iff.mpr h.indexUrl, he, trimmed?_eq_iff.mpr h'.indexUrl]
    · exact (he ▸ h.maxConnections).unique h'.maxConnections
    · rw [← entries_eq_iff.mpr h.defaultSources, he, entries_eq_iff.mpr h'.defaultSources]

/-- Settings from variables that are all set, and from one alone; and of an unset database and a
number that 32 bits do not hold, the error names the database. -/
theorem load_reads_variables_mixed :
    let full : Environment := fun name =>
      if name = addressName then .text "[::1]:080"
      else if name = databaseUrlName then .text " postgres://db "
      else if name = indexUrlName then .text " "
      else if name = maxConnectionsName then .text "\u00a0+007 "
      else if name = defaultSourcesName then .text " CrcTrust, ,ChatMessage"
      else .unset
    let bare : Environment := fun name =>
      if name = databaseUrlName then .text " postgres://db " else .bytes []
    let unfit : Environment := fun name =>
      if name = maxConnectionsName then .text "4294967296" else .unset
    let loaded : Settings := ⟨.v6 ⟨[0, 0, 0, 0, 0, 0, 0, 1], rfl⟩ 0 80, " postgres://db ", none, 7,
      ["CrcTrust", "ChatMessage"]⟩
    let default : Settings := ⟨.v4 0 0 0 0 8090, " postgres://db ", none, 10, []⟩
    load full = .ok loaded ∧ FromVariables full loaded ∧
    (∀ r ∈ requirements, r.fits (full r.name)) ∧
    load bare = .ok default ∧ FromVariables bare default ∧
    full databaseUrlName = bare databaseUrlName ∧ loaded.databaseUrl = default.databaseUrl ∧
    load unfit = .error (.missing databaseUrlName) ∧
    ∃ r, FirstUnmet unfit r ∧ databaseUrlName = r.name ∧
      r.name.toList <:+: (SettingsError.missing databaseUrlName).message.toList := by
  intro full bare unfit loaded default
  have hfull : load full = .ok loaded := by unfold full loaded; rfl
  have hbare : load bare = .ok default := by unfold bare default; rfl
  have hunfit : load unfit = .error (.missing databaseUrlName) := by unfold unfit; rfl
  have hsame : full databaseUrlName = bare databaseUrlName := by rfl
  obtain ⟨hok, hfits, -, hfields⟩ := load_reads_variables full
  have hdefault := ((load_reads_variables bare).1 default).mp hbare
  have hnamed := (load_reads_variables unfit).2.2.1 _ hunfit
  exact ⟨hfull, (hok loaded).mp hfull, hfits.mp ⟨loaded, hfull⟩, hbare, hdefault, hsame,
    (hfields bare loaded default hfull hbare).2.1 hsame, hunfit, hnamed⟩

end Settings
end ContactHistory
