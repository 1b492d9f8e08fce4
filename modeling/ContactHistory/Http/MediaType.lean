import ContactHistory.Http.Message

namespace ContactHistory.Http.MediaType

/-- A quoted value of a parameter: the characters behind its closing quote. The first character
never closes it. -/
def skipQuotedValue : List Char → Option (List Char)
  | [] => none
  | c :: cs =>
    if c.toNat ≤ 31 ∨ c = '\x7f' then none
    else
      let inside := cs.takeWhile fun c => c ≠ '"' && 31 < c.toNat && c ≠ '\x7f'
      match cs.drop inside.length with
      | '"' :: rest => some rest
      | _ => none

/-- The value of a parameter: the characters behind it and the semicolon that ends it. -/
def skipValue : List Char → Option (List Char)
  | '"' :: cs => do
    match (← skipQuotedValue cs).dropWhile (· = ' ') with
    | [] => some []
    | ';' :: rest => some rest
    | _ => none
  | cs =>
    let value := cs.takeWhile isTokenChar
    match cs.drop value.length with
    | [] => some []
    | ';' :: rest => if value.isEmpty then none else some rest
    | _ => none

/-- Parameters with semicolons between them. The number bounds how many there are. -/
def areParameters : Nat → List Char → Bool
  | 0, cs => cs.isEmpty
  | n + 1, cs =>
    match cs.dropWhile (· = ' ') with
    | [] => true
    | cs =>
      let name := cs.takeWhile isTokenChar
      match cs.drop name.length with
      | '=' :: rest =>
        if name.isEmpty then false
        else match skipValue rest with
          | some rest => areParameters n rest
          | none => false
      | _ => false

/-- The subtype and its suffix, which stands behind the last plus sign but not a leading one. -/
def splitSuffix (sub : List Char) : List Char × Option (List Char) :=
  let suffix := (sub.reverse.takeWhile (· ≠ '+')).reverse
  let kept := sub.length - suffix.length
  if 1 < kept then (sub.take (kept - 1), some suffix) else (sub, none)

/-- A text is a media type of JSON. -/
def isJson (s : String) : Bool :=
  let cs := s.toList
  let top := cs.takeWhile isTokenChar
  match cs.drop top.length with
  | '/' :: rest =>
    let sub := rest.takeWhile isTokenChar
    let parameters := match rest.drop sub.length with
      | [] => true
      | ';' :: rest => areParameters (rest.length + 1) rest
      | _ => false
    let (subtype, suffix) := splitSuffix (sub.map Char.toLower)
    !top.isEmpty && !sub.isEmpty && parameters &&
      top.map Char.toLower = "application".toList &&
      (subtype = "json".toList || suffix = some "json".toList)
  | _ => false

example : isJson "application/problem+JSON; x=y" = true := by decide

example : isJson "application/jsonp" = false := by decide

end ContactHistory.Http.MediaType
