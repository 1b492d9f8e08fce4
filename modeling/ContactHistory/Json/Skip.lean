import ContactHistory.Json.Reader

namespace ContactHistory.Json.Reader

/-- What a value that is read over stands in. -/
inductive Frame where
  | list
  | object
  deriving DecidableEq, Repr

def skipEscaped : Input → Except Fault Input
  | [] => .error .truncated
  | none :: _ => .error .malformed
  | some 'u' :: cs => (hexNumber cs).map Prod.snd
  | some c :: cs => if (shortEscape? c).isSome then .ok cs else .error .malformed

/-- A text up to its closing quote. The first number bounds the length of the input. -/
def skipQuotedChars : Nat → Input → Except Fault Input
  | 0, _ => .error .truncated
  | _, [] => .error .truncated
  | n + 1, none :: cs => skipQuotedChars n cs
  | n + 1, some c :: cs =>
    if c = '"' then .ok cs
    else if c = '\\' then
      match skipEscaped cs with
      | .error e => .error e
      | .ok cs => skipQuotedChars n cs
    else if c.toNat < 32 then .error .malformed
    else skipQuotedChars n cs

def skipQuoted (cs : Input) : Except Fault Input := skipQuotedChars (cs.length + 1) cs

def skipDigits : Input → Except Fault Input
  | [] => .error .malformed
  | c :: cs => if isDigit c then .ok (cs.dropWhile isDigit) else .error .malformed

def skipExponent : Input → Except Fault Input
  | some 'e' :: cs => skipDigits (sign cs)
  | some 'E' :: cs => skipDigits (sign cs)
  | cs => .ok cs
where
  sign : Input → Input
    | some '+' :: cs => cs
    | some '-' :: cs => cs
    | cs => cs

def skipFraction : Input → Except Fault Input
  | some '.' :: cs => (skipDigits cs).bind skipExponent
  | cs => skipExponent cs

def skipNumber : Input → Except Fault Input
  | some '0' :: c :: cs => if isDigit c then .error .malformed else skipFraction (c :: cs)
  | cs => (skipDigits cs).bind skipFraction

/-- The name of a member and the colon behind it. -/
def skipName (cs : Input) : Except Fault Input :=
  match skipBlanks cs with
  | [] => .error .truncated
  | some '"' :: cs => do
    let cs ← skipQuoted cs
    exactly ':' (skipBlanks cs)
  | _ => .error .malformed

/-- A value without parts, or the start of a list or an object. -/
def skipScalar : Input → Except Fault Input
  | [] => .error .truncated
  | some 'n' :: cs => keyword ['u', 'l', 'l'] cs
  | some 't' :: cs => keyword ['r', 'u', 'e'] cs
  | some 'f' :: cs => keyword ['a', 'l', 's', 'e'] cs
  | some '-' :: cs => skipNumber cs
  | some '"' :: cs => skipQuoted cs
  | c :: cs => if isDigit c then skipNumber (c :: cs) else .error .malformed

/-- Reads over values until the frames are closed. `within` tells whether a value has just ended;
the first number bounds the steps. -/
def skipFrames : Nat → Bool → List Frame → Input → Except Fault Input
  | 0, _, _, _ => .error .truncated
  | n + 1, false, frames, cs =>
    match skipBlanks cs with
    | some '[' :: cs =>
      match skipBlanks cs with
      | some ']' :: cs => skipFrames n true frames cs
      | cs => skipFrames n false (.list :: frames) cs
    | some '{' :: cs =>
      match skipBlanks cs with
      | some '}' :: cs => skipFrames n true frames cs
      | cs =>
        match skipName cs with
        | .error e => .error e
        | .ok cs => skipFrames n false (.object :: frames) cs
    | cs =>
      match skipScalar cs with
      | .error e => .error e
      | .ok cs => skipFrames n true frames cs
  | _ + 1, true, [], cs => .ok cs
  | n + 1, true, .list :: frames, cs =>
    match skipBlanks cs with
    | [] => .error .truncated
    | some ',' :: cs => skipFrames n false (.list :: frames) cs
    | some ']' :: cs => skipFrames n true frames cs
    | _ => .error .malformed
  | n + 1, true, .object :: frames, cs =>
    match skipBlanks cs with
    | [] => .error .truncated
    | some ',' :: cs =>
      match skipName cs with
      | .error e => .error e
      | .ok cs => skipFrames n false (.object :: frames) cs
    | some '}' :: cs => skipFrames n true frames cs
    | _ => .error .malformed

def skipValue (cs : Input) : Except Fault Input := skipFrames (cs.length + 2) false [] cs

end ContactHistory.Json.Reader
