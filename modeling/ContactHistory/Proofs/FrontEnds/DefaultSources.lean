import ContactHistory.Proofs.FrontEnds.Gets
import ContactHistory.Proofs.LoadedSettings

namespace ContactHistory

open Http Text

theorem Settings.defaultSources_of_load {env : Environment} {settings : Settings}
    (h : Settings.load env = .ok settings) :
    settings.defaultSources = (env Settings.defaultSourcesName).entries := by
  obtain ⟨address, -, h⟩ := bind_eq_ok_iff.mp h
  obtain ⟨databaseUrl, -, h⟩ := bind_eq_ok_iff.mp h
  obtain ⟨maxConnections, -, h⟩ := bind_eq_ok_iff.mp h
  cases h
  rfl

namespace Http.Request

variable {r : Request} {raw subject : String}

/-- The request asks for contacts, of a subject and perhaps of a counterparty that are not blank,
and its query has a text for the sources. -/
inductive GivesSources (r : Request) (raw : String) : Prop
  | list {subject : String} {form : List (String × String)} (route : r.Takes .contacts)
      (path : r.texts .contacts = .ok [subject])
      (query : Inquiry.queryForm r ["sources", "addresses"] = .ok form)
      (given : Form.values form "sources" = [raw]) (named : trimmed subject ≠ "")
  | single {subject c : String} {form : List (String × String)} (route : r.Takes .contact)
      (path : r.texts .contact = .ok [subject, c])
      (query : Inquiry.queryForm r ["sources"] = .ok form)
      (given : Form.values form "sources" = [raw]) (named : trimmed subject ≠ "")
      (narrowed : trimmed c ≠ "")

theorem GivesSources.puts (h : r.GivesSources raw) (limit : Nat) :
    ∃ q c, r.Puts limit q c ∧ ¬q.IsBlank c ∧ q.sources = CommaList.entries raw := by
  have hlist {form : List (String × String)} (given : Form.values form "sources" = [raw]) :
      (Inquiry.listIn form "sources").getD [] = CommaList.entries raw := by
    have hvalues : Form.values form "sources" = (some raw).toList := given
    rw [listIn_of_values hvalues]
    rfl
  cases h with
  | list route path query given named =>
    refine ⟨_, _, .list route path query, ?_, hlist given⟩
    simp [Question.isBlank_iff, named]
  | single route path query given named narrowed =>
    refine ⟨_, _, .single route path query, ?_, hlist given⟩
    simp [Question.isBlank_iff, named, narrowed]

/-- What such a request asks is from the sources of its text, or from those of the service. -/
theorem GivesSources.inquire (h : r.GivesSources raw) (s : Service) (limit : Nat) :
    ∃ i, s.inquire limit r = .ok (some i) ∧
      i.selection = .ofNamesOr s.defaultSelection (some (CommaList.entries raw)) := by
  obtain ⟨q, c, hputs, hblank, hsources⟩ := h.puts limit
  refine ⟨_, hputs.inquire_of_not_isBlank hblank s, ?_⟩
  rw [← hsources]
  rfl

theorem Gets.givesSources {addresses : Option String}
    (h : r.Gets .contacts [subject] [("sources", some raw), ("addresses", addresses)])
    (named : trimmed subject ≠ "") : r.GivesSources raw :=
  .list (h.takes (by decide)) h.decoded h.queryForm (h.query ("sources", some raw) (by simp)) named

theorem givesSources_of_target {headers : List (String × String)} {body : List UInt8}
    (named : trimmed subject ≠ "")
    (h : Request.ofParts? "GET" (Question.target (Question.path ⟨subject, [], []⟩)
      (Question.query? [("sources", raw)])) headers body = some r) : r.GivesSources raw := by
  have hfields : ∀ f ∈ [("sources", some raw), ("addresses", none)],
      Form.values [("sources", raw)] f.1 = f.2.toList := by
    intro f hf
    simp only [List.mem_cons, List.not_mem_nil, or_false] at hf
    rcases hf with rfl | rfl <;> simp [Form.values]
  exact (gets_contacts h hfields).givesSources named

end Http.Request

/-- The settings and a query read the same entries from a text. None of them is blank or holds a
comma, and lists of such texts are what joining can be undone for. A text with entries therefore
selects by default what it selects in a query. A text without any leaves all sources as the default,
and a query with it asks for what the service has by default. -/
theorem Text.CommaList.readers_agree (raw : String) :
    (Variable.text raw).entries = CommaList.entries raw ∧
    (∀ x ∈ CommaList.entries raw, x ≠ "" ∧ trimmed x = x ∧ ',' ∉ x.toList) ∧
    (∀ xs : List String, (∀ x ∈ xs, x ≠ "" ∧ trimmed x = x ∧ ',' ∉ x.toList) →
      CommaList.entries (CommaList.join xs) = xs) ∧
    (CommaList.entries raw = [] ↔ ∀ c ∈ raw.toList, c = ',' ∨ isBlank c = true) ∧
    (∀ (subject : String) (headers : List (String × String)) (body : List UInt8) (r : Request),
      trimmed subject ≠ "" →
      Request.ofParts? "GET" (Question.target (Question.path ⟨subject, [], []⟩)
        (Question.query? [("sources", raw)])) headers body = some r → r.GivesSources raw) ∧
    ∀ (env : Environment) (settings : Settings) (s : Service) (limit : Nat) (r : Request),
      env Settings.defaultSourcesName = .text raw → Settings.load env = .ok settings →
      r.GivesSources raw →
      let configured := Settings.defaultSelection settings.defaultSources
      ∃ i, s.inquire limit r = .ok (some i) ∧
        (CommaList.entries raw ≠ [] → i.selection = configured) ∧
        (CommaList.entries raw = [] → configured = .all ∧ i.selection = s.defaultSelection) := by
  refine ⟨Variable.entries_text raw, fun x => CommaList.entry_of_mem,
    fun xs => CommaList.entries_join_of_present, CommaList.entries_eq_nil_iff,
    fun subject headers body r => Request.givesSources_of_target, ?_⟩
  intro env settings s limit r hvariable hload hr configured
  have hconfigured : configured = .ofNamesOr .all (some (CommaList.entries raw)) := by
    rw [← Variable.entries_text raw, ← hvariable, ← Settings.defaultSources_of_load hload]
    rfl
  obtain ⟨i, hi, hselection⟩ := hr.inquire s limit
  rw [hconfigured]
  refine ⟨i, hi, fun hne => ?_, fun hnil => ?_⟩
  · rw [hselection, Selection.ofNamesOr_of_ne_nil _ hne, Selection.ofNamesOr_of_ne_nil _ hne]
  · rw [hnil] at hselection ⊢
    exact ⟨rfl, hselection⟩

/-- A text with blanks in its entries, around them and in their place. -/
theorem Text.CommaList.readers_agree_spaced :
    let raw := "\u3000crc_trust, ,no source,"
    let env : Environment := fun n =>
      if n = Settings.databaseUrlName then .text "postgres://db"
      else if n = Settings.defaultSourcesName then .text raw else .unset
    let s : Service := ⟨⟨.ofSources [], fun _ => pure (.ok .empty)⟩, .all, .ok ()⟩
    let r : Request := ⟨"GET", "/v1/subjects/0xABC/contacts",
      some "sources=%E3%80%80crc_trust%2C%20%2Cno%20source%2C", [], []⟩
    CommaList.entries raw = ["crc_trust", "no source"] ∧
      ∃ settings i, Settings.load env = .ok settings ∧ s.inquire bodyLimit r = .ok (some i) ∧
        i.selection = Settings.defaultSelection settings.defaultSources ∧
        i.selection.points = [.crcTrust] := by
  intro raw env s r
  have hentries : CommaList.entries raw = ["crc_trust", "no source"] := by decide
  have hload : Settings.load env = .ok ⟨.v4 0 0 0 0 8090, "postgres://db", none,
      Settings.defaultMaxConnections, ["crc_trust", "no source"]⟩ := by decide +kernel
  have hsent : Request.ofParts? "GET" (Question.target (Question.path ⟨"0xABC", [], []⟩)
      (Question.query? [("sources", raw)])) [] [] = some r := by decide +kernel
  obtain ⟨-, -, -, -, hencoded, hasked⟩ := readers_agree raw
  obtain ⟨i, hi, hselected, -⟩ :=
    hasked env _ s bodyLimit r rfl hload (hencoded "0xABC" [] [] r (by decide) hsent)
  have hselection := hselected (by rw [hentries]; decide)
  exact ⟨hentries, _, i, hload, hi, hselection, by rw [hselection]; decide⟩

end ContactHistory
