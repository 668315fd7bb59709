import RecordCheck.Text.Upper
import RecordCheck.Text.Word

/-!
The identifier of a rule's complaint, made from the rule's name: the words of a camel-case name in
upper case, joined by underscores.
-/

namespace RecordCheck.ErrorId

def endsWord (char : Char) : Bool := char.isLower || char.isDigit

def separate : List Char → List Char
  | first :: second :: rest =>
      if endsWord first && second.isUpper then first :: '_' :: separate (second :: rest)
      else first :: separate (second :: rest)
  | chars => chars

/-- Puts one underscore for each run of characters that belong to no word. The first argument tells
whether such a run is under way. -/
def joinRuns (running : Bool) : List Char → List Char
  | [] => []
  | char :: rest =>
      if Text.isWord char then char :: joinRuns false rest
      else if running then joinRuns true rest
      else '_' :: joinRuns true rest

def words (name : List Char) : List Char := Text.upper (joinRuns false (separate name))

def ofName (name : String) : String :=
  "VALIDATION_FAILED_" ++ String.ofList (words name.toList)

end RecordCheck.ErrorId
