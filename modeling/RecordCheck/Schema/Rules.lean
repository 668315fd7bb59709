import RecordCheck.Directive.Reader
import RecordCheck.Schema.Draft

/-!
The rules of an authored property: a text of directives, or a list whose items are such texts,
directives, or mappings with a name and arguments.
-/

namespace RecordCheck

inductive DirectiveDraftError
  | notDirective (literal : String)
  | notIterable (kind : String)
  | absentKey (name : String)
  | integer (fault : Whole.Fault)
deriving DecidableEq

namespace DirectiveDraftError

def message : DirectiveDraftError → String
  | notDirective literal => "Cannot build a rule descriptor from " ++ literal
  | notIterable kind => "'" ++ kind ++ "' object is not iterable"
  | absentKey name => name
  | integer fault => fault.message

end DirectiveDraftError

def Argument.entryText (name : String) (entries : List (Key × Draft)) :
    Except DirectiveDraftError String :=
  match entries.lookup (.text name) with
  | some draft => draft.display.mapError .integer
  | none => .error (.absentKey name)

/-- One argument of a directive draft. A mapping stands for an argument under a key. -/
def Argument.ofDraft : Draft → Except DirectiveDraftError Argument
  | .part (.argument key text) => .ok (.keyed key text)
  | .dict entries =>
      (Argument.entryText "key" entries).bind fun key =>
        (Argument.entryText "value" entries).map fun text => .keyed key text
  | draft => .ok (.positional draft.plain)

namespace Directive

/-- The arguments that a draft lists: the items of a sequence, the characters of a text, the bytes
of bytes, the keys of a mapping. What counts as false lists none. -/
def listedArguments (draft : Draft) : Except DirectiveDraftError (List Draft) :=
  if !draft.truthy then .ok []
  else
    match draft with
    | .list items | .tuple items => .ok items
    | .text content => .ok (content.toList.map fun char => .text (String.singleton char))
    | .bytes content => .ok (content.map fun byte => .int byte.toNat)
    | .dict entries => .ok (entries.map fun entry => entry.1.toValue.embed)
    | other => .error (.notIterable other.kindName)

def argumentsOfDrafts : List Draft → Except DirectiveDraftError (List Argument)
  | [] => .ok []
  | draft :: rest =>
      (Argument.ofDraft draft).bind fun argument =>
        (argumentsOfDrafts rest).map (argument :: ·)

def notDirective (draft : Draft) : DirectiveDraftError :=
  match draft.literal with
  | .ok literal => .notDirective literal
  | .error fault => .integer fault

/-- A directive, or a mapping with a name and perhaps arguments. The name is written last. -/
def ofDraft : Draft → Except DirectiveDraftError Directive
  | .part (.directive directive) => .ok directive
  | .dict entries =>
      match entries.lookup (.text "name") with
      | some name =>
          (listedArguments ((entries.lookup (.text "arguments")).getD .null)).bind fun drafts =>
            (argumentsOfDrafts drafts).bind fun arguments =>
              (name.display.mapError .integer).map fun name => ⟨name, arguments⟩
      | none => .error (notDirective (.dict entries))
  | draft => .error (notDirective draft)

end Directive

end RecordCheck
