import BoxOffice.Text.Basic

/-! # Lines

A line ends at a line feed, which belongs to no line; a carriage return right before it belongs to
the line end too. What follows the last line feed is a line only if it is not empty, and keeps a
carriage return at its end.
-/

namespace BoxOffice.Text

/-- A line without the carriage return that its line end began with. -/
def dropReturn (line : Text) : Text :=
  if line.getLast? = some '\r' then line.dropLast else line

/-- Lines from the pieces between line feeds: all but the last piece were ended by one. -/
def linesOfPieces : List Text → List Text
  | [] => []
  | [last] => if last.isEmpty then [] else [last]
  | piece :: next :: rest => dropReturn piece :: linesOfPieces (next :: rest)

def lines (text : Text) : List Text := linesOfPieces (text.splitOn '\n')

example : lines "a\r\n\nb\r" = ["a".toList, [], "b\r".toList] := by decide
example : lines "a\n" = ["a".toList] := by decide

end BoxOffice.Text
