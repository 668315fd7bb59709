import RecordCheck.Text.Ranges

/-!
White space and trimming. A text is trimmed of the blanks at both ends; the blanks inside stay.
-/

namespace RecordCheck.Text

/-- The Unicode white space together with the four separators U+001C to U+001F. -/
def blankRanges : CharRanges :=
  [(0x09, 0x0D), (0x1C, 0x20), (0x85, 0x85), (0xA0, 0xA0), (0x1680, 0x1680), (0x2000, 0x200A),
   (0x2028, 0x2029), (0x202F, 0x202F), (0x205F, 0x205F), (0x3000, 0x3000)]

def isBlank (char : Char) : Bool := blankRanges.covers char.toNat

def trimEnd (chars : List Char) : List Char := (chars.reverse.dropWhile isBlank).reverse

def trim (chars : List Char) : List Char := trimEnd (chars.dropWhile isBlank)

def allBlank (chars : List Char) : Bool := chars.all isBlank

theorem dropWhile_isBlank_eq_nil_iff (chars : List Char) :
    chars.dropWhile isBlank = [] ↔ allBlank chars = true := by
  induction chars with
  | nil => simp [allBlank]
  | cons first rest ih =>
      by_cases blank : isBlank first = true
      · rw [List.dropWhile_cons, if_pos blank, ih]
        simp [allBlank, blank]
      · simp [blank, allBlank]

theorem trim_eq_nil_iff (chars : List Char) : trim chars = [] ↔ allBlank chars = true := by
  simp only [trim, trimEnd, List.reverse_eq_nil_iff, dropWhile_isBlank_eq_nil_iff]
  constructor
  · intro blank
    rw [← dropWhile_isBlank_eq_nil_iff]
    cases rest : chars.dropWhile isBlank with
    | nil => rfl
    | cons first later =>
        have solid := List.head?_dropWhile_not isBlank chars
        simp [allBlank, rest] at blank
        simp [rest, blank] at solid
  · intro blank
    rw [(dropWhile_isBlank_eq_nil_iff chars).mpr blank]
    rfl

end RecordCheck.Text
