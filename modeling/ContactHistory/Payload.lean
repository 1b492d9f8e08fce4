import ContactHistory.History
import ContactHistory.Json.Record

namespace ContactHistory.Payload

open ContactHistory.Json

@[ext] structure ProfileRecord where
  id : Int64
  circlesAddress : String
  displayName : String
  avatarUrl : Option String
  deriving DecidableEq, Repr

@[ext] structure PointRecord where
  name : String
  directions : List String
  values : List String
  timestamps : List String
  deriving DecidableEq, Repr

@[ext] structure ContactRecord where
  contactAddress : String
  lastContactAt : String
  metadata : List PointRecord
  profile : Option ProfileRecord
  deriving DecidableEq, Repr

@[ext] structure HistoryRecord where
  lastUpdatedAt : String
  contacts : List ContactRecord
  deriving DecidableEq, Repr

def ProfileRecord.ofProfile (p : Profile) : ProfileRecord :=
  ⟨p.id, p.address, p.displayName, p.avatarUrl⟩

def PointRecord.ofSignal (s : Signal) : PointRecord where
  name := s.point.name
  directions := s.directions.map Direction.name
  values := s.values
  timestamps := s.times.map Instant.text

def ContactRecord.ofContact (c : Contact) : ContactRecord where
  contactAddress := c.counterparty
  lastContactAt := c.lastAt.text
  metadata := c.signals.map PointRecord.ofSignal
  profile := c.profile.map ProfileRecord.ofProfile

def HistoryRecord.ofHistory (h : History) : HistoryRecord where
  lastUpdatedAt := Text.Decimal.ofInt64 h.lastUpdatedAt
  contacts := h.contacts.map ContactRecord.ofContact

namespace ProfileRecord

def toJson (p : ProfileRecord) : Value :=
  .object [("id", .number p.id.toInt), ("circlesAddress", .text p.circlesAddress),
    ("displayName", .text p.displayName), ("avatarUrl", Value.ofOption .text p.avatarUrl)]

structure Draft where
  id : Option Int64 := none
  circlesAddress : Option String := none
  displayName : Option String := none
  avatarUrl : Option (Option String) := none

def fields : List (Member Draft) :=
  [.of "id" Draft.id (fun d a => { d with id := some a }) Reader.int64,
    .of "circlesAddress" Draft.circlesAddress (fun d a => { d with circlesAddress := some a })
      Reader.text,
    .of "displayName" Draft.displayName (fun d a => { d with displayName := some a }) Reader.text,
    .of "avatarUrl" Draft.avatarUrl (fun d a => { d with avatarUrl := some a })
      (Reader.nullable Reader.text)]

def Draft.finish (d : Draft) : Option ProfileRecord := do
  some ⟨← d.id, ← d.circlesAddress, ← d.displayName, d.avatarUrl.getD none⟩

def read : Input → Except Fault (ProfileRecord × Input) := Reader.record fields {} Draft.finish

end ProfileRecord

namespace PointRecord

def toJson (p : PointRecord) : Value :=
  .object [("name", .text p.name), ("directions", .ofTexts p.directions),
    ("values", .ofTexts p.values), ("timestamps", .ofTexts p.timestamps)]

structure Draft where
  name : Option String := none
  directions : Option (List String) := none
  values : Option (List String) := none
  timestamps : Option (List String) := none

def fields : List (Member Draft) :=
  [.of "name" Draft.name (fun d a => { d with name := some a }) Reader.text,
    .of "directions" Draft.directions (fun d a => { d with directions := some a })
      (Reader.list Reader.text),
    .of "values" Draft.values (fun d a => { d with values := some a }) (Reader.list Reader.text),
    .of "timestamps" Draft.timestamps (fun d a => { d with timestamps := some a })
      (Reader.list Reader.text)]

def Draft.finish (d : Draft) : Option PointRecord := do
  some ⟨← d.name, ← d.directions, ← d.values, ← d.timestamps⟩

def read : Input → Except Fault (PointRecord × Input) := Reader.record fields {} Draft.finish

end PointRecord

namespace ContactRecord

def toJson (c : ContactRecord) : Value :=
  .object ([("contactAddress", .text c.contactAddress), ("lastContactAt", .text c.lastContactAt),
    ("metadata", .list (c.metadata.map PointRecord.toJson))] ++
    c.profile.toList.map fun p => ("contactAddressProfile", p.toJson))

structure Draft where
  contactAddress : Option String := none
  lastContactAt : Option String := none
  metadata : Option (List PointRecord) := none
  profile : Option (Option ProfileRecord) := none

def fields : List (Member Draft) :=
  [.of "contactAddress" Draft.contactAddress (fun d a => { d with contactAddress := some a })
      Reader.text,
    .of "lastContactAt" Draft.lastContactAt (fun d a => { d with lastContactAt := some a })
      Reader.text,
    .of "metadata" Draft.metadata (fun d a => { d with metadata := some a })
      (Reader.list PointRecord.read),
    .of "contactAddressProfile" Draft.profile (fun d a => { d with profile := some a })
      (Reader.nullable ProfileRecord.read)]

def Draft.finish (d : Draft) : Option ContactRecord := do
  some ⟨← d.contactAddress, ← d.lastContactAt, ← d.metadata, d.profile.getD none⟩

def read : Input → Except Fault (ContactRecord × Input) := Reader.record fields {} Draft.finish

end ContactRecord

namespace HistoryRecord

def toJson (h : HistoryRecord) : Value :=
  .object [("lastUpdatedAt", .text h.lastUpdatedAt),
    ("contacts", .list (h.contacts.map ContactRecord.toJson))]

structure Draft where
  lastUpdatedAt : Option String := none
  contacts : Option (List ContactRecord) := none

def fields : List (Member Draft) :=
  [.of "lastUpdatedAt" Draft.lastUpdatedAt (fun d a => { d with lastUpdatedAt := some a })
      Reader.text,
    .of "contacts" Draft.contacts (fun d a => { d with contacts := some a })
      (Reader.list ContactRecord.read)]

def Draft.finish (d : Draft) : Option HistoryRecord := do
  some ⟨← d.lastUpdatedAt, ← d.contacts⟩

def read : Input → Except Fault (HistoryRecord × Input) := Reader.record fields {} Draft.finish

end HistoryRecord

def parse {α : Type} (reader : Input → Except Fault (α × Input)) (s : String) : Except Fault α :=
  Reader.whole reader (.ofString s)

end ContactHistory.Payload
