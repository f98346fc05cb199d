import BoxOffice.Json.Basic

/-! # Reading JSON

The reader takes the grammar by its word: no comments, no commas at the end, no leading zeros, no
control characters inside strings, and nothing but blanks after the document.
-/

namespace BoxOffice.Json

/-- The rest of a text after its JSON blanks. -/
def skipBlanks (s : Text) : Text :=
  s.dropWhile fun c => c == ' ' || c == '\n' || c == '\t' || c == '\r'

def hexValue? (c : Char) : Option Nat :=
  if '0' ≤ c ∧ c ≤ '9' then some (c.toNat - '0'.toNat)
  else if 'a' ≤ c ∧ c ≤ 'f' then some (c.toNat - 'a'.toNat + 10)
  else if 'A' ≤ c ∧ c ≤ 'F' then some (c.toNat - 'A'.toNat + 10)
  else none

/-- The number that four hexadecimal digits write. -/
def hexUnit? (a b c d : Char) : Option Nat := do
  return (((← hexValue? a) * 16 + (← hexValue? b)) * 16 + (← hexValue? c)) * 16 + (← hexValue? d)

/-- The character that a backslash and one letter stand for. -/
def escaped? : Char → Option Char
  | '"' => some '"'
  | '\\' => some '\\'
  | '/' => some '/'
  | 'b' => some '\x08'
  | 'f' => some '\x0c'
  | 'n' => some '\n'
  | 'r' => some '\r'
  | 't' => some '\t'
  | _ => none

/-- What a string is made of: characters, and units of UTF-16 written in hexadecimal. -/
inductive Piece where
  | char (c : Char)
  | unit (n : Nat)
  deriving Repr, DecidableEq

/-- The pieces of a string up to its closing quote, and the rest. -/
def pieces? : Text → Option (List Piece × Text)
  | [] => none
  | '"' :: rest => some ([], rest)
  | '\\' :: 'u' :: a :: b :: c :: d :: rest => do
      let n ← hexUnit? a b c d
      let (pieces, rest) ← pieces? rest
      return (.unit n :: pieces, rest)
  | '\\' :: letter :: rest => do
      let c ← escaped? letter
      let (pieces, rest) ← pieces? rest
      return (.char c :: pieces, rest)
  | c :: rest =>
      if c.toNat < 0x20 then none
      else do
        let (pieces, rest) ← pieces? rest
        return (.char c :: pieces, rest)

def isHigh (n : Nat) : Bool := 0xD800 ≤ n && n < 0xDC00

def isLow (n : Nat) : Bool := 0xDC00 ≤ n && n < 0xE000

/-- The text of a string. Two halves of a surrogate pair in a row are one character; a half by
    itself stands for none. -/
def textOfPieces? : List Piece → Option Text
  | [] => some []
  | .char c :: rest => (textOfPieces? rest).map (c :: ·)
  | .unit high :: .unit low :: rest =>
      if isHigh high then
        if isLow low then
          let c := Char.ofNat (0x10000 + (high - 0xD800) * 0x400 + (low - 0xDC00))
          (textOfPieces? rest).map (c :: ·)
        else none
      else if isLow high then none
      else (textOfPieces? (.unit low :: rest)).map (Char.ofNat high :: ·)
  | .unit n :: rest =>
      if isHigh n || isLow n then none else (textOfPieces? rest).map (Char.ofNat n :: ·)

/-- The digits at the beginning, at least one, and the rest. -/
def digits? (s : Text) : Option (Text × Text) :=
  match s.takeWhile Char.isDigit with
  | [] => none
  | digits => some (digits, s.dropWhile Char.isDigit)

/-- The rest after an optional fraction, and whether there was one. -/
def fraction? : Text → Option (Bool × Text)
  | '.' :: rest => (digits? rest).map fun (_, rest) => (true, rest)
  | rest => some (false, rest)

/-- The rest after an optional exponent, and whether there was one. -/
def exponent? : Text → Option (Bool × Text)
  | c :: rest =>
      if c = 'e' ∨ c = 'E' then
        let unsigned := match rest with
          | '+' :: digits => digits
          | '-' :: digits => digits
          | digits => digits
        (digits? unsigned).map fun (_, rest) => (true, rest)
      else some (false, c :: rest)
  | [] => some (false, [])

/-- A number without its sign: its digits, whether it is written as an integer, and the rest. -/
def magnitude? (s : Text) : Option (Nat × Bool × Text) := do
  let (digits, rest) ← digits? s
  if digits.length ≠ 1 ∧ digits.head? = some '0' then none
  else
    let (hasFraction, rest) ← fraction? rest
    let (hasExponent, rest) ← exponent? rest
    return (Nat.ofDigitChars 10 digits 0, !hasFraction && !hasExponent, rest)

def number? : Text → Option (Json × Text)
  | '-' :: s => do
      let (n, isInteger, rest) ← magnitude? s
      return (.number (if isInteger && n != 0 then some (-(Int.ofNat n)) else none), rest)
  | s => do
      let (n, isInteger, rest) ← magnitude? s
      return (.number (if isInteger then some (Int.ofNat n) else none), rest)

mutual

/-- A value and the rest, with room for so many values and separators. -/
def value? : Nat → Text → Option (Json × Text)
  | 0, _ => none
  | room + 1, s =>
      match skipBlanks s with
      | 'n' :: 'u' :: 'l' :: 'l' :: rest => some (.null, rest)
      | 't' :: 'r' :: 'u' :: 'e' :: rest => some (.bool true, rest)
      | 'f' :: 'a' :: 'l' :: 's' :: 'e' :: rest => some (.bool false, rest)
      | '"' :: rest => do
          let (pieces, rest) ← pieces? rest
          return (.string (textOfPieces? pieces), rest)
      | '[' :: rest =>
          match skipBlanks rest with
          | ']' :: rest => some (.array [], rest)
          | rest => do
              let (items, rest) ← items? room rest
              return (.array items, rest)
      | '\x7b' :: rest =>
          match skipBlanks rest with
          | '\x7d' :: rest => some (.object [], rest)
          | rest => do
              let (members, rest) ← members? room rest
              return (.object members, rest)
      | rest => number? rest

/-- The items of an array up to its closing bracket, at least one, and the rest. -/
def items? : Nat → Text → Option (List Json × Text)
  | 0, _ => none
  | room + 1, s => do
      let (item, rest) ← value? room s
      match skipBlanks rest with
      | ']' :: rest => return ([item], rest)
      | ',' :: rest =>
          let (items, rest) ← items? room rest
          return (item :: items, rest)
      | _ => none

/-- The members of an object up to its closing bracket, at least one, and the rest. -/
def members? : Nat → Text → Option (List (Option Text × Json) × Text)
  | 0, _ => none
  | room + 1, s =>
      match skipBlanks s with
      | '"' :: rest => do
          let (pieces, rest) ← pieces? rest
          match skipBlanks rest with
          | ':' :: rest =>
              let (value, rest) ← value? room rest
              match skipBlanks rest with
              | '\x7d' :: rest => return ([(textOfPieces? pieces, value)], rest)
              | ',' :: rest =>
                  let (members, rest) ← members? room rest
                  return ((textOfPieces? pieces, value) :: members, rest)
              | _ => none
          | _ => none
      | _ => none

end

/-- The document a text holds. Every value and separator takes a character, so there is room. -/
def parse (text : Text) : Option Json :=
  match value? (2 * text.length + 2) text with
  | some (value, rest) => if (skipBlanks rest).isEmpty then some value else none
  | none => none

end BoxOffice.Json
