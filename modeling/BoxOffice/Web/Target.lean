import BoxOffice.Text.Basic

/-! # Request targets

The target of a request is written in one of four forms: a path; an asterisk; an authority alone; or
a scheme, an authority and perhaps a path. A query and a fragment may follow a path. Routing needs
nothing of a target but its path, and the path of an authority alone is empty.
-/

namespace BoxOffice.Web

/-- Why a text is no request target. -/
inductive TargetError where
  | empty
  /-- It takes more than 65534 bytes. -/
  | tooLong
  /-- It has a character that may not stand where it stands. -/
  | character
  /-- The scheme takes more than 64 characters. -/
  | scheme
  /-- The host, the port or what stands before them is written wrongly. -/
  | authority
  /-- An authority is missing after a scheme, or is followed by a path without one. -/
  | form
  deriving Repr, DecidableEq

def TargetError.message : TargetError → Text
  | .empty => "empty string"
  | .tooLong => "uri too long"
  | .character => "invalid uri character"
  | .scheme => "scheme too long"
  | .authority => "invalid authority"
  | .form => "invalid format"

namespace Target

/-- Whether a character begins a path, a query or a fragment. -/
def endsAuthority (c : Char) : Bool := c = '/' || c = '?' || c = '#'

def isOfScheme (c : Char) : Bool := c.isAlphanum || c = '+' || c = '-' || c = '.'

/-- Whether a character may stand in an authority and means nothing special there. -/
def isPlain (c : Char) : Bool := c.isAlphanum || "!$&'()*+,-.;=_~".toList.contains c

/-- Whether a character may stand in a path. Some that ought to be percent-encoded are let
    through. -/
def isOfPath (c : Char) : Bool :=
  c.isAlphanum || "!$%&'()*+,-./:;=@[\\]^_|~\"\x7b\x7d".toList.contains c || 0x7F ≤ c.toNat

def isOfQuery (c : Char) : Bool :=
  0x21 ≤ c.toNat && c ≠ '"' && c ≠ '#' && c ≠ '<' && c ≠ '>'

/-- What has been seen of an authority, from left to right. -/
structure Scan where
  /-- The colons since the user or since the brackets were closed. -/
  colons : Nat
  opened : Bool
  closed : Bool
  /-- A percent sign was seen since the user or since the brackets were closed. -/
  percent : Bool
  deriving Repr, DecidableEq

/-- Take in one character of an authority. Eight colons are as many as an address in brackets can
    have together with its port. -/
def Scan.take (s : Scan) (c : Char) : Except TargetError Scan :=
  if c = ':' then
    if 8 ≤ s.colons then .error .authority else .ok { s with colons := s.colons + 1 }
  else if c = '[' then
    if s.percent || s.opened then .error .authority else .ok { s with opened := true }
  else if c = ']' then
    if !s.opened || s.closed then .error .authority
    else .ok { s with closed := true, colons := 0, percent := false }
  else if c = '@' then .ok { s with colons := 0, percent := false }
  else if c = '%' then .ok { s with percent := true }
  else if isPlain c then .ok s
  else .error .character

/-- Whether an authority may end here: the brackets are closed, there is no colon but that of the
    port, and a percent sign stands in nothing but the user. -/
def Scan.canEnd (s : Scan) : Bool := s.opened == s.closed && s.colons ≤ 1 && !s.percent

/-- Check an authority. The host behind a user may not be missing. -/
def checkAuthority (authority : Text) : Except TargetError Unit := do
  let s ← authority.foldlM Scan.take ⟨0, false, false, false⟩
  if s.canEnd && authority.getLast? ≠ some '@' then return () else throw .authority

/-- What follows the scheme and its slashes, if there is a scheme. -/
def afterScheme? (target : Text) : Except TargetError (Option Text) :=
  let scheme := target.takeWhile isOfScheme
  match Text.after? "://" (target.drop scheme.length) with
  | none => .ok none
  | some rest =>
      if scheme.isEmpty && rest.isEmpty then .ok none
      else if 64 < scheme.length then .error .scheme
      else .ok (some rest)

def pathOf (text : Text) : Except TargetError Text :=
  let path := text.takeWhile fun c => c ≠ '?' && c ≠ '#'
  let query := match text.drop path.length with
    | '?' :: rest => rest.takeWhile (· ≠ '#')
    | _ => []
  if path.all isOfPath && query.all isOfQuery then .ok path else .error .character

/-- The path of a target with a scheme, from its authority on. -/
def absolutePath (rest : Text) : Except TargetError Text := do
  let authority := rest.takeWhile fun c => !endsAuthority c
  checkAuthority authority
  if authority.isEmpty then throw .form
  else
    let path ← pathOf (rest.drop authority.length)
    return if path.isEmpty then ['/'] else path

/-- Check a target that is an authority alone. Its path is empty. -/
def authorityPath (target : Text) : Except TargetError Text := do
  let authority := target.takeWhile fun c => !endsAuthority c
  checkAuthority authority
  if authority.length = target.length then return []
  else if target.length = 1 then throw .character
  else throw .form

/-- The path of a request target. -/
def path (target : Text) : Except TargetError Text :=
  if 65534 < (String.ofList target).utf8ByteSize then .error .tooLong
  else
    match target with
    | [] => .error .empty
    | ['*'] => .ok ['*']
    | '/' :: _ => pathOf target
    | _ => do
        match ← afterScheme? target with
        | some rest => absolutePath rest
        | none => authorityPath target

end Target

end BoxOffice.Web
