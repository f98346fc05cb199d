import BoxOffice.Web.Target

/-! # Web requests

A request is read from a method, a target and headers as they are written. Reading stops at the
first of them that is written wrongly.
-/

namespace BoxOffice.Web

/-- A request: its method, the path of its target, and its headers by name in lower case. -/
structure Request where
  method : Text
  path : Text
  headers : List (Text × Text)
  deriving Repr, DecidableEq

/-- What is written wrongly in a request. -/
inductive RequestError where
  | method
  | target (error : TargetError)
  | headerName
  | headerValue
  deriving Repr, DecidableEq

def RequestError.message : RequestError → Text
  | .method => "invalid HTTP method"
  | .target error => error.message
  | .headerName => "invalid HTTP header name"
  | .headerValue => "failed to parse header value"

/-- A text in small ASCII letters; other letters keep their case. -/
def lowerAscii (text : Text) : Text := text.map Char.toLower

/-- Whether a text is a token, which methods and the names of headers have to be. -/
def isToken (text : Text) : Bool :=
  !text.isEmpty && text.all fun c => c.isAlphanum || "!#$%&'*+-.^_`|~".toList.contains c

/-- Whether a text may be the value of a header: it has no control characters but tabs. -/
def isHeaderValue (text : Text) : Bool :=
  text.all fun c => c = '\t' || (0x20 ≤ c.toNat && c.toNat ≠ 0x7F)

namespace Request

def readHeader (header : Text × Text) : Except RequestError (Text × Text) :=
  if !isToken header.1 then .error .headerName
  else if !isHeaderValue header.2 then .error .headerValue
  else .ok (lowerAscii header.1, header.2)

def read (method target : Text) (headers : List (Text × Text)) : Except RequestError Request := do
  if !isToken method then throw .method
  else
    let path ← (Target.path target).mapError .target
    return { method, path, headers := ← headers.mapM readHeader }

/-- The value of a header; the first one, if it is given more than once. -/
def header? (r : Request) (name : Text) : Option Text := r.headers.lookup name

/-- Whether a header has a value, whatever the case of its letters. -/
def headerIs (r : Request) (name value : Text) : Bool :=
  (r.header? name).any fun actual => lowerAscii actual == value

end Request

end BoxOffice.Web
