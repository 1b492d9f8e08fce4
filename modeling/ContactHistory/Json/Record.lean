import ContactHistory.Json.Skip

namespace ContactHistory.Json

/-- A member of a record: its name, whether a draft has it, and how to read it into a draft. -/
structure Member (δ : Type) where
  name : String
  given : δ → Bool
  read : δ → Input → Except Fault (δ × Input)

/-- The member that a draft holds as `get`, once it is given. -/
def Member.of {δ α : Type} (name : String) (get : δ → Option α) (set : δ → α → δ)
    (reader : Input → Except Fault (α × Input)) : Member δ where
  name := name
  given := fun d => (get d).isSome
  read := fun d cs => (reader cs).map fun (a, cs) => (set d a, cs)

namespace Reader

/-- The fields in order, as items of a list. -/
def positions {δ : Type} : List (Member δ) → Bool → δ → Input → Except Fault (δ × Input)
  | [], _, draft, cs =>
    match skipBlanks cs with
    | [] => .error .truncated
    | some ']' :: cs => .ok (draft, cs)
    | _ => .error .malformed
  | f :: fs, first, draft, cs =>
    match nextItem first cs with
    | .error e => .error e
    | .ok (false, _) => .error .shape
    | .ok (true, cs) =>
      match f.read draft cs with
      | .error e => .error e
      | .ok (draft, cs) => positions fs false draft cs

/-- Whether an object goes on: the text behind the quote of its next name, or behind its brace. -/
def nextName (first : Bool) (cs : Input) : Except Fault (Bool × Input) :=
  match skipBlanks cs with
  | [] => .error .truncated
  | some '}' :: cs => .ok (false, cs)
  | c :: cs =>
    if first then
      if c = some '"' then .ok (true, cs) else .error .malformed
    else if c = some ',' then
      match skipBlanks cs with
      | [] => .error .truncated
      | some '"' :: cs => .ok (true, cs)
      | _ => .error .malformed
    else .error .malformed

/-- The colon and the value of a member. -/
def memberValue {δ : Type} (fields : List (Member δ)) (name : String) (draft : δ) (cs : Input) :
    Except Fault (δ × Input) :=
  match fields.find? fun f => f.name = name with
  | some f =>
    if f.given draft then .error .shape
    else (exactly ':' (skipBlanks cs)).bind fun cs => f.read draft cs
  | none =>
    (exactly ':' (skipBlanks cs)).bind fun cs => (skipValue cs).map fun cs => (draft, cs)

/-- The members of an object, in any order. Members of other names are read over, and one that is
given twice is a fault. The first number bounds the length of the input. -/
def members {δ : Type} (fields : List (Member δ)) :
    Nat → Bool → δ → Input → Except Fault (δ × Input)
  | 0, _, _, _ => .error .truncated
  | n + 1, first, draft, cs =>
    match nextName first cs with
    | .error e => .error e
    | .ok (false, cs) => .ok (draft, cs)
    | .ok (true, cs) =>
      match quoted cs with
      | .error e => .error e
      | .ok (name, cs) =>
        match memberValue fields name draft cs with
        | .error e => .error e
        | .ok (draft, cs) => members fields n false draft cs

/-- A record of given fields. The draft starts empty, and `finish` makes the record of a draft that
has all it needs. -/
def record {δ α : Type} (fields : List (Member δ)) (start : δ) (finish : δ → Option α)
    (cs : Input) :
    Except Fault (α × Input) :=
  match skipBlanks cs with
  | some '{' :: cs => (members fields (cs.length + 1) true start cs).bind close
  | some '[' :: cs => (positions fields true start cs).bind close
  | cs => refuse cs
where
  close : δ × Input → Except Fault (α × Input)
    | (draft, cs) =>
      match finish draft with
      | some a => .ok (a, cs)
      | none => .error .shape

end Reader
end ContactHistory.Json
