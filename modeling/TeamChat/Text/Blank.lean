import TeamChat.Text.Ranges

/-!
# Blank characters

Blanks are the characters with the Unicode property White_Space: the ASCII blanks, the line and
paragraph separators and the spaces of fixed width. The zero-width space is none of them.

## Contents
- `isBlank`: the property.
- `trimEnd`, `trim`: a text without the blanks at its end, or at both ends.
-/

namespace TeamChat.Text

/-- The ranges of the property White_Space. -/
def blankRanges : Ranges :=
  [(0x0009, 0x000D), (0x0020, 0x0020), (0x0085, 0x0085), (0x00A0, 0x00A0), (0x1680, 0x1680),
   (0x2000, 0x200A), (0x2028, 0x2029), (0x202F, 0x202F), (0x205F, 0x205F), (0x3000, 0x3000)]

/-- A character that separates words and is cut off at the ends of a line. -/
def isBlank (c : Char) : Bool :=
  blankRanges.contains c

/-! ## Cutting blanks off -/

/-- The characters up to the last one that is not blank. -/
def trimEnd (s : List Char) : List Char :=
  (s.reverse.dropWhile isBlank).reverse

/-- The characters from the first to the last one that is not blank. -/
def trim (s : List Char) : List Char :=
  trimEnd (s.dropWhile isBlank)

/-- A trimmed text does not end in a blank. -/
theorem isBlank_getLast_trimEnd {s : List Char} {c : Char} (h : (trimEnd s).getLast? = some c) :
    isBlank c = false := by
  simp only [trimEnd, List.getLast?_reverse] at h
  have := List.head?_dropWhile_not isBlank s.reverse
  rw [h] at this
  simpa using this

end TeamChat.Text
