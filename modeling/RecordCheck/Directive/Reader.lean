import RecordCheck.Directive.Basic
import RecordCheck.Text.Blank

/-!
The notation of directives: `name` or `name[argument,key=value]`, joined by bars. A bar inside
brackets belongs to the argument; brackets do not nest, and nothing follows a closing bracket.
-/

namespace RecordCheck

inductive DirectiveFault
  | nestedBracket
  | strayBracket
  | openBracket
  | unreadable (part : String)
deriving DecidableEq

structure DirectiveError where
  text : String
  fault : DirectiveFault
deriving DecidableEq

inductive DirectiveInputError
  | notText (kind : String)
  | malformed (error : DirectiveError)
deriving DecidableEq

namespace DirectiveFault

def message : DirectiveFault → String
  | nestedBracket => "nested '[' is not supported"
  | strayBracket => "']' without matching '['"
  | openBracket => "unmatched '['"
  | unreadable part => "cannot parse directive " ++ Text.quoted part

end DirectiveFault

def DirectiveError.message (error : DirectiveError) : String :=
  "Malformed validation rule " ++ Text.quoted error.text ++ ": " ++ error.fault.message

def DirectiveInputError.message : DirectiveInputError → String
  | .notText kind => "rule string must be str, got " ++ kind
  | .malformed error => error.message

namespace Directive

def extend (char : Char) : List (List Char) → List (List Char)
  | [] => [[char]]
  | part :: parts => (char :: part) :: parts

/-- The parts between the bars that stand outside brackets. `inside` tells whether a bracket is
open; the first bracket out of place is the fault. -/
def split (inside : Bool) : List Char → Except DirectiveFault (List (List Char))
  | [] => if inside then .error .openBracket else .ok [[]]
  | char :: rest =>
      if char = '[' then
        if inside then .error .nestedBracket else (split true rest).map (extend char)
      else if char = ']' then
        if inside then (split false rest).map (extend char) else .error .strayBracket
      else if char = '|' && !inside then (split false rest).map ([] :: ·)
      else (split inside rest).map (extend char)

def unquote (token : List Char) : List Char :=
  match token with
  | quote :: rest =>
      if (quote = '"' || quote = '\'') && rest.getLast? = some quote then rest.dropLast else token
  | [] => []

/-- One argument: text with an equals sign has a key before its first one. -/
def readArgument (token : List Char) : Argument :=
  match token.dropWhile (· != '=') with
  | _ :: text =>
      .keyed (String.ofList (token.takeWhile (· != '='))) (String.ofList (unquote text))
  | [] => .positional (.text (String.ofList (unquote token)))

def readArguments (chars : List Char) : List Argument :=
  if chars.isEmpty then [] else (chars.splitOn ',').map readArgument

def isNameChar (char : Char) : Bool := char != '[' && char != ']' && char != '|'

def isArgumentChar (char : Char) : Bool := char != '[' && char != ']'

/-- Reads one part, the blanks around it being dropped: a name, and arguments in brackets at the
end. -/
def readPart (part : List Char) : Option Directive :=
  let body := Text.trim part
  let name := body.takeWhile isNameChar
  if name.isEmpty then none
  else
    let written := String.ofList (Text.trim name)
    match body.dropWhile isNameChar with
    | [] => some ⟨written, []⟩
    | '[' :: rest =>
        if rest.dropWhile isArgumentChar = [']'] then
          some ⟨written, readArguments (rest.takeWhile isArgumentChar)⟩
        else none
    | _ => none

def readParts : List (List Char) → Except DirectiveFault (List Directive)
  | [] => .ok []
  | part :: parts =>
      match readPart part with
      | none => .error (.unreadable (String.ofList part))
      | some directive => (readParts parts).map (directive :: ·)

def readChars (chars : List Char) : Except DirectiveFault (List Directive) :=
  if Text.allBlank chars then .ok [] else (split false chars).bind readParts

def read (text : String) : Except DirectiveError (List Directive) :=
  (readChars text.toList).mapError fun fault => ⟨text, fault⟩

def ofValue : Value → Except DirectiveInputError (List Directive)
  | .text content => (read content).mapError .malformed
  | value => .error (.notText value.kindName)

end Directive

end RecordCheck
