import RecordCheck.Value.Literal
import RecordCheck.Value.Same

/-!
Directives: the name of a rule and its arguments, each argument a value by position or a text under
a key.
-/

namespace RecordCheck

inductive Argument
  | positional (value : Value)
  | keyed (key text : String)
deriving DecidableEq

namespace Argument

def value? : Argument → Option Value
  | positional value => some value
  | keyed _ _ => none

def pair? : Argument → Option (String × String)
  | positional _ => none
  | keyed key text => some (key, text)

def positionals (arguments : List Argument) : List Value := arguments.filterMap value?

/-- The arguments under a key; of equal keys the last text counts, in the place of the first. -/
def keyeds (arguments : List Argument) : List (String × String) :=
  Entries.ofTexts (arguments.filterMap pair?)

def writable : Argument → Bool
  | positional value => value.writable
  | keyed _ _ => true

def render : Argument → Value
  | positional value => value
  | keyed key text => .dict [(.text "key", .text key), (.text "value", .text text)]

end Argument

structure Directive where
  name : String
  arguments : List Argument
deriving DecidableEq

def Directive.render (directive : Directive) : Value :=
  .dict [(.text "name", .text directive.name),
    (.text "arguments", .list (directive.arguments.map Argument.render))]

end RecordCheck
