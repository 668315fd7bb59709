import RecordCheck.Directive.Basic
import RecordCheck.Number.Whole
import RecordCheck.Text.Word

/-!
Message templates. A placeholder is a word in braces: digits stand for the argument at that index,
any other word for the text under that key. What stands for nothing stays as written, and the text
that is put in is not read again.
-/

namespace RecordCheck

inductive Piece
  | text (chars : List Char)
  | placeholder (token : List Char)
deriving DecidableEq

namespace Piece

def written : Piece → List Char
  | text chars => chars
  | placeholder token => '\x7b' :: token ++ ['\x7d']

/-- Cuts a template into pieces. The first argument holds the word after an open brace, if one is
open. -/
def scan : Option (List Char) → List Char → List Piece
  | none, [] => []
  | some token, [] => [text ('\x7b' :: token)]
  | none, char :: rest =>
      if char = '\x7b' then scan (some []) rest else text [char] :: scan none rest
  | some token, char :: rest =>
      if Text.isWord char then scan (some (token ++ [char])) rest
      else if char = '\x7d' && !token.isEmpty then placeholder token :: scan none rest
      else if char = '\x7b' then text ('\x7b' :: token) :: scan (some []) rest
      else text ('\x7b' :: token) :: text [char] :: scan none rest

def argumentText : Argument → Except Whole.Fault String
  | .positional value => value.scalarText
  | .keyed _ content => .ok content

def indexed? (arguments : List Argument) (index : Nat) : Except Whole.Fault (Option String) :=
  match arguments[index]? with
  | some argument => (argumentText argument).map some
  | none => .ok none

/-- What a placeholder stands for; `none` when it stands for nothing. A word of digits by their look
must be read as an integer. -/
def substitute? (arguments : List Argument) (token : List Char) :
    Except Whole.Fault (Option String) :=
  if token.all Text.isDigitSign then
    (Whole.read token).bind (indexed? arguments)
  else .ok ((Argument.keyeds arguments).lookup (String.ofList token))

def fill (arguments : List Argument) : Piece → Except Whole.Fault (List Char)
  | text chars => .ok chars
  | placeholder token =>
      (substitute? arguments token).map fun found =>
        match found with
        | some content => content.toList
        | none => (placeholder token).written

def fillAll (arguments : List Argument) : List Piece → Except Whole.Fault (List Char)
  | [] => .ok []
  | piece :: rest =>
      (fill arguments piece).bind fun first => (fillAll arguments rest).map (first ++ ·)

end Piece

def fillTemplate (template : String) (arguments : List Argument) : Except Whole.Fault String :=
  (Piece.fillAll arguments (Piece.scan none template.toList)).map String.ofList

end RecordCheck
