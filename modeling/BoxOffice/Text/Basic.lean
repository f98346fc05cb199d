/-! # Text as its characters

Every format of the box office is read by recursion on the characters of a text, so a text is the
list of its characters. Cutting at the first occurrence of a mark is the one search used.
-/

namespace BoxOffice

/-- A text: its characters from left to right. -/
abbrev Text := List Char

/-- A string literal stands for its characters. -/
instance : Coe String Text := ⟨String.toList⟩

namespace Text

/-- What stands before and after the first occurrence of `mark`. -/
def cut? (mark : Text) : Text → Option (Text × Text)
  | [] => if mark.isEmpty then some ([], []) else none
  | c :: rest =>
      if mark.isPrefixOf (c :: rest) then some ([], (c :: rest).drop mark.length)
      else (cut? mark rest).map fun (before, after) => (c :: before, after)

/-- Whether `mark` occurs anywhere in the text. -/
def has (text mark : Text) : Bool := (cut? mark text).isSome

/-- What follows `lead`, if the text begins with it. -/
def after? (lead text : Text) : Option Text :=
  if lead.isPrefixOf text then some (text.drop lead.length) else none

/-- The texts one after another with `separator` between neighbours. -/
def join (separator : Text) (texts : List Text) : Text := separator.intercalate texts

end Text

end BoxOffice
