import BoxOffice.Text.Basic

/-! # Blanks and words

A blank is a character with the Unicode property White_Space: twenty-five code points, among them
the no-break space and the ideographic space, but neither the zero-width space nor the byte order
mark. Trimming and splitting into words use this one class.
-/

namespace BoxOffice

/-- The code points with the Unicode property White_Space, as closed ranges in ascending order. -/
def whiteSpace : List (Nat × Nat) :=
  [(0x09, 0x0D), (0x20, 0x20), (0x85, 0x85), (0xA0, 0xA0), (0x1680, 0x1680), (0x2000, 0x200A),
    (0x2028, 0x2029), (0x202F, 0x202F), (0x205F, 0x205F), (0x3000, 0x3000)]

/-- Whether a character has the Unicode property White_Space. -/
def isBlank (c : Char) : Bool :=
  whiteSpace.any fun (first, last) => first ≤ c.toNat && c.toNat ≤ last

/-- The table has the twenty-five code points of the property. -/
example : (whiteSpace.map fun (first, last) => last + 1 - first).sum = 25 := by decide

/-- The ASCII class of the core library lies inside the property. -/
theorem isBlank_of_isWhitespace {c : Char} (h : c.isWhitespace) : isBlank c := by
  simp [Char.isWhitespace] at h
  rcases h with ((rfl | rfl) | rfl) | rfl <;> decide

namespace Text

/-- The text without the blanks at its beginning. -/
def trimStart (text : Text) : Text := text.dropWhile isBlank

def trim (text : Text) : Text := ((trimStart text).reverse.dropWhile isBlank).reverse

/-- The longest runs of characters that are not blank. -/
def words (text : Text) : List Text := (text.splitOnP isBlank).filter fun word => !word.isEmpty

end Text

end BoxOffice
