import ContactHistory.Text.Decimal

namespace ContactHistory.Json

/-- The small hexadecimal digit of a number below 16. -/
def hexDigit (n : Nat) : Char := if n < 10 then Char.ofNat (48 + n) else Char.ofNat (87 + n)

def escapeChar (c : Char) : List Char :=
  if c = '"' then ['\\', '"']
  else if c = '\\' then ['\\', '\\']
  else if c = '\n' then ['\\', 'n']
  else if c = '\r' then ['\\', 'r']
  else if c = '\t' then ['\\', 't']
  else if c = '\x08' then ['\\', 'b']
  else if c = '\x0c' then ['\\', 'f']
  else if c.toNat < 32 then ['\\', 'u', '0', '0', hexDigit (c.toNat / 16), hexDigit (c.toNat % 16)]
  else [c]

def escape (cs : List Char) : List Char := cs.flatMap escapeChar

def quote (s : String) : List Char := '"' :: (escape s.toList ++ ['"'])

example : quote "a\"\x1f" = ['"', 'a', '\\', '"', '\\', 'u', '0', '0', '1', 'f', '"'] := by decide

inductive Value where
  | null
  | bool (b : Bool)
  | number (n : Int)
  | text (s : String)
  | list (items : List Value)
  | object (members : List (String × Value))

/-- How a value is laid out: on one line, or on lines at a level of indentation. -/
inductive Layout where
  | compact
  | pretty (level : Nat)
  deriving DecidableEq, Repr

namespace Layout

def deeper : Layout → Layout
  | compact => compact
  | pretty n => pretty (n + 1)

def lineBreak : Layout → List Char
  | compact => []
  | pretty n => '\n' :: List.replicate (2 * n) ' '

/-- What stands between the name and the value of a member. -/
def colon : Layout → List Char
  | compact => [':']
  | pretty _ => [':', ' ']

/-- Items with commas between them, inside of brackets. -/
def bracket (l : Layout) (first last : Char) : List (List Char) → List Char
  | [] => [first, last]
  | x :: xs =>
    first :: (l.deeper.lineBreak ++ x ++ xs.flatMap (fun y => ',' :: (l.deeper.lineBreak ++ y)) ++
      l.lineBreak ++ [last])

end Layout

namespace Value

mutual

/-- The text of a value in a layout. -/
def render (l : Layout) : Value → List Char
  | .null => ['n', 'u', 'l', 'l']
  | .bool true => ['t', 'r', 'u', 'e']
  | .bool false => ['f', 'a', 'l', 's', 'e']
  | .number n => Text.Decimal.ofInt n
  | .text s => quote s
  | .list vs => l.bracket '[' ']' (renderItems l.deeper vs)
  | .object ms => l.bracket '{' '}' (renderMembers l.deeper ms)

def renderItems (l : Layout) : List Value → List (List Char)
  | [] => []
  | v :: vs => render l v :: renderItems l vs

def renderMembers (l : Layout) : List (String × Value) → List (List Char)
  | [] => []
  | (k, v) :: ms => (quote k ++ l.colon ++ render l v) :: renderMembers l ms

end

def compact (v : Value) : String := String.ofList (v.render .compact)

def pretty (v : Value) : String := String.ofList (v.render (.pretty 0))

def ofTexts (ss : List String) : Value := .list (ss.map .text)

/-- The value of something that may be absent. -/
def ofOption {α : Type} (f : α → Value) : Option α → Value
  | none => .null
  | some a => f a

end Value
end ContactHistory.Json
