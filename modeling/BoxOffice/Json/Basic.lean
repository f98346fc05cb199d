import BoxOffice.Text.Decimal

/-! # JSON documents

A document keeps what its readers can ask for. A string whose escapes name half of a surrogate pair
stands for no text: that makes it unreadable but does no harm where nobody reads it. A number with
a fraction or an exponent is no integer, and neither is minus zero.
-/

namespace BoxOffice

inductive Json where
  | null
  | bool (value : Bool)
  /-- A number and its value, if it is written as an integer. -/
  | number (integer : Option Int)
  /-- A string and the text it stands for, if it stands for one. -/
  | string (text : Option Text)
  | array (items : List Json)
  /-- The members in the order of the document, repeated names included. -/
  | object (members : List (Option Text × Json))
  deriving Repr

namespace Json

def hexDigit (n : Nat) : Char := Nat.digitChar (n % 16)

/-- A character inside a string. Quotes, backslashes and control characters are escaped. -/
def escape (c : Char) : Text :=
  if c = '"' then ['\\', '"']
  else if c = '\\' then ['\\', '\\']
  else if c = '\n' then ['\\', 'n']
  else if c = '\r' then ['\\', 'r']
  else if c = '\t' then ['\\', 't']
  else if c = '\x08' then ['\\', 'b']
  else if c = '\x0c' then ['\\', 'f']
  else if c.toNat < 0x20 then ['\\', 'u', '0', '0', hexDigit (c.toNat / 16), hexDigit c.toNat]
  else [c]

/-- A text as a string literal. -/
def quote (text : Text) : Text := '"' :: text.flatMap escape ++ ['"']

/-- An object without blanks, of members that are printed already. -/
def printObject (members : List (Text × Text)) : Text :=
  let written := members.map fun (name, value) => quote name ++ ':' :: value
  '\x7b' :: Text.join [','] written ++ ['\x7d']

/-! ## Reading a value -/

def toBool? : Json → Option Bool
  | .bool value => some value
  | _ => none

def toText? : Json → Option Text
  | .string text => text
  | _ => none

/-- The value of an integer from zero to `max`. -/
def toNat? (max : Nat) : Json → Option Nat
  | .number (some (.ofNat n)) => if n ≤ max then some n else none
  | _ => none

/-- The one member of a name. -/
def member? (members : List (Text × Json)) (name : Text) : Option Json :=
  match members.filter fun (other, _) => other == name with
  | [(_, value)] => some value
  | _ => none

/-- The fields of a record, in the order of their names. An object has to have each name exactly
    once, and its other members are ignored; an array has to list the fields and nothing else. -/
def toRecord? (names : List Text) : Json → Option (List Json)
  | .object members => do
      let members ← members.mapM fun (name, value) => name.map fun name => (name, value)
      names.mapM (member? members)
  | .array items => if items.length = names.length then some items else none
  | _ => none

end Json

end BoxOffice
