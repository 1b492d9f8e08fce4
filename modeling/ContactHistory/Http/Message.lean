import ContactHistory.Text.Decimal

namespace ContactHistory.Http

structure Request where
  method : String
  path : String
  query : Option String
  headers : List (String × String)
  body : List UInt8
  deriving DecidableEq, Repr

structure Response where
  status : Nat
  headers : List (String × String)
  body : String
  deriving DecidableEq, Repr

/-- The first field of a name, which is given in small letters. -/
def field? (headers : List (String × String)) (name : String) : Option String :=
  (headers.find? fun h => String.ofList (h.1.toList.map Char.toLower) = name).map Prod.snd

namespace Request

def header? (r : Request) (name : String) : Option String := field? r.headers name

/-- A field whose characters are all visible, blanks or tabs. -/
def visibleHeader? (r : Request) (name : String) : Option String :=
  (r.header? name).filter fun s => s.toList.all fun c => c = '\t' || (' ' ≤ c && c ≤ '~')

end Request

namespace Response

def header? (r : Response) (name : String) : Option String := field? r.headers name

def empty (status : Nat) : Response := ⟨status, [], ""⟩

/-- A response with a text of a media type. -/
def ofText (status : Nat) (contentType body : String) : Response :=
  ⟨status, [("content-type", contentType)], body⟩

/-- The answer to a request that is refused before it is looked into. -/
def plain (status : Nat) (body : String) : Response :=
  ofText status "text/plain; charset=utf-8" body

/-- The response without its body, as it is sent to a request for the head. -/
def withoutBody (r : Response) : Response := { r with body := "" }

def addHeader (r : Response) (name value : String) : Response :=
  { r with headers := r.headers ++ [(name, value)] }

end Response

def tokenMarks : List Char :=
  ['!', '#', '$', '%', '&', '\'', '*', '+', '-', '.', '^', '_', '\x60', '|', '~']

/-- A character of a token: a letter, a digit or a mark. -/
def isTokenChar (c : Char) : Bool := c.isAlphanum || tokenMarks.contains c

def isToken (s : String) : Bool := !s.isEmpty && s.toList.all isTokenChar

/-- A header field can be sent: its name is a token, and its value has no control characters but
tabs. -/
def isField (h : String × String) : Bool :=
  isToken h.1 && h.1.length < UInt16.size &&
    h.2.toList.all fun c => c = '\t' || (' ' ≤ c && c ≠ '\x7f')

end ContactHistory.Http
