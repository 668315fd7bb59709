import RecordCheck.Text.Blank

/-!
Email addresses: a local part, one at sign and a domain with a dot inside, none of it blank. One
line feed may follow.
-/

namespace RecordCheck.Email

def isPartChar (char : Char) : Bool := !Text.isBlank char && char != '@'

/-- A domain: allowed characters only, and a dot that is neither the first nor the last of them. -/
def isDomain (chars : List Char) : Bool :=
  chars.all isPartChar && (chars.drop 1).dropLast.contains '.'

def isAddress (chars : List Char) : Bool :=
  !(chars.takeWhile isPartChar).isEmpty &&
    match chars.dropWhile isPartChar with
    | '@' :: domain => isDomain domain
    | _ => false

def accepts (chars : List Char) : Bool :=
  isAddress chars || (chars.getLast? == some '\n' && isAddress chars.dropLast)

end RecordCheck.Email
