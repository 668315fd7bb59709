import RecordCheck.Text.Printable

/-!
Quoted forms of texts and of bytes, as they appear in messages. A text stands between single quotes
unless it holds one and holds no double quote; what is not printable is written by its number.
-/

namespace RecordCheck.Text

def hexDigit (digit : Nat) : Char :=
  if digit < 10 then Char.ofNat (48 + digit) else Char.ofNat (87 + digit)

def hexDigits : Nat → Nat → List Char
  | 0, _ => []
  | width + 1, number => hexDigits width (number / 16) ++ [hexDigit (number % 16)]

/-- Single quotes, or double quotes for a text that holds single quotes only. -/
def quoteFor (chars : List Char) : Char :=
  if chars.contains '\'' && !chars.contains '"' then '"' else '\''

def shortEscape? (quote char : Char) : Option Char :=
  if char = quote || char = '\\' then some char
  else if char = '\t' then some 't'
  else if char = '\n' then some 'n'
  else if char = '\r' then some 'r'
  else none

def escapeChar (quote char : Char) : List Char :=
  match shortEscape? quote char with
  | some letter => ['\\', letter]
  | none =>
      if isPrintable char then [char]
      else if char.toNat < 0x100 then '\\' :: 'x' :: hexDigits 2 char.toNat
      else if char.toNat < 0x10000 then '\\' :: 'u' :: hexDigits 4 char.toNat
      else '\\' :: 'U' :: hexDigits 8 char.toNat

def quotedChars (chars : List Char) : List Char :=
  let quote := quoteFor chars
  quote :: chars.flatMap (escapeChar quote) ++ [quote]

def quoted (text : String) : String := String.ofList (quotedChars text.toList)

/-- A byte inside quoted bytes: only the printable ASCII characters stand for themselves. -/
def escapeByte (quote char : Char) : List Char :=
  match shortEscape? quote char with
  | some letter => ['\\', letter]
  | none =>
      if 0x20 ≤ char.toNat && char.toNat < 0x7F then [char]
      else '\\' :: 'x' :: hexDigits 2 char.toNat

def quotedBytes (bytes : List UInt8) : String :=
  let chars := bytes.map fun byte => Char.ofNat byte.toNat
  let quote := quoteFor chars
  String.ofList ('b' :: quote :: chars.flatMap (escapeByte quote) ++ [quote])

end RecordCheck.Text
