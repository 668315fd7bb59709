import RecordCheck.Value.Literal

/-!
Values written as JSON documents in ASCII: a character that is not printable ASCII is written by its
16-bit units. What has no form of its own, such as bytes, is written as the text of its literal. An
integer with too many digits has no document.
-/

namespace RecordCheck.Json

def documentWords : SpecialWords := ⟨"NaN", "Infinity"⟩

def unitEscape (unit : Nat) : List Char := '\\' :: 'u' :: Text.hexDigits 4 unit

def escapeChar (char : Char) : List Char :=
  if char = '"' then ['\\', '"']
  else if char = '\\' then ['\\', '\\']
  else if char = '\n' then ['\\', 'n']
  else if char = '\r' then ['\\', 'r']
  else if char = '\t' then ['\\', 't']
  else if char = '\x08' then ['\\', 'b']
  else if char = '\x0c' then ['\\', 'f']
  else if 0x20 ≤ char.toNat && char.toNat < 0x7F then [char]
  else if char.toNat < 0x10000 then unitEscape char.toNat
  else
    let above := char.toNat - 0x10000
    unitEscape (0xD800 + above / 0x400) ++ unitEscape (0xDC00 + above % 0x400)

def stringChars (content : List Char) : List Char :=
  '"' :: content.flatMap escapeChar ++ ['"']

def keyText : Key → String
  | .text name => name
  | .int integer => toString integer
  | .bool flag => if flag then "true" else "false"
  | .null => "null"

mutual

def chars : Value → List Char
  | .null => "null".toList
  | .bool flag => (if flag then "true" else "false").toList
  | .int integer => (toString integer).toList
  | .float number => (number.text documentWords).toList
  | .text content => stringChars content.toList
  | .list items | .tuple items => '[' :: itemChars items ++ [']']
  | .dict entries => '\x7b' :: memberChars entries ++ ['\x7d']
  | .absent => stringChars (Value.absent : Value).spelled.toList
  | .bytes content => stringChars (Value.bytes content : Value).spelled.toList

def itemChars : List Value → List Char
  | [] => []
  | item :: rest => chars item ++ laterItems rest

def laterItems : List Value → List Char
  | [] => []
  | item :: rest => ',' :: ' ' :: chars item ++ laterItems rest

def memberChars : List (Key × Value) → List Char
  | [] => []
  | (key, item) :: rest =>
      stringChars (keyText key).toList ++ ':' :: ' ' :: chars item ++ laterMembers rest

def laterMembers : List (Key × Value) → List Char
  | [] => []
  | (key, item) :: rest =>
      ',' :: ' ' :: stringChars (keyText key).toList ++ ':' :: ' ' :: chars item ++
        laterMembers rest

end

def write (value : Value) : Except Whole.Fault String :=
  Whole.ifWritable value.writable (String.ofList (chars value))

end RecordCheck.Json
