/-!
Sets of characters written as closed ranges of code points. The ranges of a table ascend, so a
search stops at the first range that begins above the character.
-/

namespace RecordCheck

abbrev CharRanges := List (Nat × Nat)

namespace CharRanges

def covers : CharRanges → Nat → Bool
  | [], _ => false
  | (first, last) :: later, point =>
      if point < first then false else point ≤ last || covers later point

end CharRanges

end RecordCheck
