import ContactHistory.Payload
import ContactHistory.Proofs.Json.Members

namespace ContactHistory.Payload

open ContactHistory.Json
open ContactHistory.Json.Reader

theorem ProfileRecord.takes (l : Layout) (p : ProfileRecord) :
    Takes ProfileRecord.read l p.toJson p := by
  have havatar : Takes (nullable text) l.deeper (Value.ofOption .text p.avatarUrl) p.avatarUrl :=
    takes_ofOption (takes_text l.deeper) (fun _ => by simp [Value.render, quote]) p.avatarUrl
  have hfills : Fills ProfileRecord.fields l.deeper {}
      [("id", .number p.id.toInt), ("circlesAddress", .text p.circlesAddress),
        ("displayName", .text p.displayName), ("avatarUrl", Value.ofOption .text p.avatarUrl)]
      ⟨some p.id, some p.circlesAddress, some p.displayName, some p.avatarUrl⟩ :=
    .cons rfl rfl ((takes_int64 _ p.id).member) <|
    .cons rfl rfl ((takes_text _ p.circlesAddress).member) <|
    .cons rfl rfl ((takes_text _ p.displayName).member) <|
    .cons rfl rfl (havatar.member) <|
    .nil _
  exact takes_record hfills rfl

theorem PointRecord.takes (l : Layout) (p : PointRecord) :
    Takes PointRecord.read l p.toJson p := by
  have hfills : Fills PointRecord.fields l.deeper {}
      [("name", .text p.name), ("directions", .ofTexts p.directions),
        ("values", .ofTexts p.values), ("timestamps", .ofTexts p.timestamps)]
      ⟨some p.name, some p.directions, some p.values, some p.timestamps⟩ :=
    .cons rfl rfl ((takes_text _ p.name).member) <|
    .cons rfl rfl ((takes_ofTexts _ p.directions).member) <|
    .cons rfl rfl ((takes_ofTexts _ p.values).member) <|
    .cons rfl rfl ((takes_ofTexts _ p.timestamps).member) <|
    .nil _
  exact takes_record hfills rfl

/-- A contact without a profile is written without a member for it, and so it is read. -/
theorem ContactRecord.takes (l : Layout) (c : ContactRecord) :
    Takes ContactRecord.read l c.toJson c := by
  obtain ⟨address, lastAt, metadata, profile⟩ := c
  have hmetadata : Takes (list PointRecord.read) l.deeper (.list (metadata.map PointRecord.toJson))
      metadata := takes_list fun p _ => PointRecord.takes l.deeper.deeper p
  have hrest (d : ContactRecord.Draft) (ms : List (String × Value))
      (h : Fills ContactRecord.fields l.deeper
        ⟨some address, some lastAt, some metadata, none⟩ ms d) :
      Fills ContactRecord.fields l.deeper {}
        (("contactAddress", .text address) :: ("lastContactAt", .text lastAt) ::
          ("metadata", .list (metadata.map PointRecord.toJson)) :: ms) d :=
    .cons rfl rfl ((takes_text _ address).member) <|
    .cons rfl rfl ((takes_text _ lastAt).member) <|
    .cons rfl rfl (hmetadata.member) h
  cases profile with
  | none => exact takes_record (hrest _ _ (.nil _)) rfl
  | some p =>
    have hprofile : Takes (nullable ProfileRecord.read) l.deeper p.toJson (some p) :=
      (ProfileRecord.takes l.deeper p).nullable (by simp [ProfileRecord.toJson, Value.render,
        Value.renderMembers_eq, Layout.bracket])
    exact takes_record (hrest _ _ (.cons rfl rfl (hprofile.member) (.nil _))) rfl

theorem HistoryRecord.takes (l : Layout) (h : HistoryRecord) :
    Takes HistoryRecord.read l h.toJson h := by
  have hcontacts : Takes (list ContactRecord.read) l.deeper
      (.list (h.contacts.map ContactRecord.toJson)) h.contacts :=
    takes_list fun c _ => ContactRecord.takes l.deeper.deeper c
  have hfills : Fills HistoryRecord.fields l.deeper {}
      [("lastUpdatedAt", .text h.lastUpdatedAt),
        ("contacts", .list (h.contacts.map ContactRecord.toJson))]
      ⟨some h.lastUpdatedAt, some h.contacts⟩ :=
    .cons rfl rfl ((takes_text _ h.lastUpdatedAt).member) <|
    .cons rfl rfl (hcontacts.member) <|
    .nil _
  exact takes_record hfills rfl

/-- What a reader takes in any layout it makes of the whole text. -/
theorem parse_of_takes {α : Type} {reader : Input → Except Fault (α × Input)} {v : Value} {a : α}
    (h : ∀ l, Takes reader l v a) :
    parse reader v.compact = .ok a ∧ parse reader v.pretty = .ok a := by
  have whole (l : Layout) : parse reader (String.ofList (v.render l)) = .ok a := by
    have hread := h l [] [] (by simp) (by simp [Delimited])
    rw [List.nil_append, List.append_nil] at hread
    have he : Input.ofString (String.ofList (v.render l)) = Input.ofChars (v.render l) := by
      simp [Input.ofString, Input.ofChars]
    unfold parse Reader.whole
    rw [he, hread]
    rfl
  exact ⟨whole .compact, whole (.pretty 0)⟩

/-- Reading undoes writing, for every kind of payload and in both layouts. -/
theorem parse_written :
    (∀ h : HistoryRecord, parse HistoryRecord.read h.toJson.compact = .ok h ∧
      parse HistoryRecord.read h.toJson.pretty = .ok h) ∧
    (∀ c : ContactRecord, parse ContactRecord.read c.toJson.compact = .ok c ∧
      parse ContactRecord.read c.toJson.pretty = .ok c) ∧
    (∀ p : PointRecord, parse PointRecord.read p.toJson.compact = .ok p ∧
      parse PointRecord.read p.toJson.pretty = .ok p) ∧
    (∀ p : ProfileRecord, parse ProfileRecord.read p.toJson.compact = .ok p ∧
      parse ProfileRecord.read p.toJson.pretty = .ok p) :=
  ⟨fun h => parse_of_takes fun l => HistoryRecord.takes l h,
    fun c => parse_of_takes fun l => ContactRecord.takes l c,
    fun p => parse_of_takes fun l => PointRecord.takes l p,
    fun p => parse_of_takes fun l => ProfileRecord.takes l p⟩

end ContactHistory.Payload
