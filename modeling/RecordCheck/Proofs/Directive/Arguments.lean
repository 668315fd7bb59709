import Mathlib.Data.List.Forall2
import Mathlib.Data.List.TakeWhile
import RecordCheck.Directive.Reader
import RecordCheck.Proofs.Text.Cut

/-!
How arguments are written. An argument is a text by position, without an equals sign, or a text
behind a key and the first equals sign; a pair of equal quotes around a text is dropped. Commas
separate arguments, and nothing between the brackets means that there are none.
-/

namespace RecordCheck

namespace Directive

def quotes : List Char := ['"', '\'']

/-- The text that a token stands for: what is inside a pair of quotes, or the whole token where
there is no such pair. -/
inductive StandsFor : List Char → List Char → Prop
  | quoted {quote text} : quote ∈ quotes → StandsFor (quote :: (text ++ [quote])) text
  | bare {token} : (∀ quote ∈ quotes, ∀ text, token ≠ quote :: (text ++ [quote])) →
      StandsFor token token

inductive WritesArgument : List Char → Argument → Prop
  | positional {token text} : '=' ∉ token → StandsFor token text →
      WritesArgument token (.positional (.text (String.ofList text)))
  | keyed {key token text} : '=' ∉ key → StandsFor token text →
      WritesArgument (key ++ '=' :: token) (.keyed (String.ofList key) (String.ofList text))

/-- The arguments that the text between brackets writes, in order. -/
inductive WritesArguments : List Char → List Argument → Prop
  | none : WritesArguments [] []
  | listed {tokens arguments} : [','].intercalate tokens ≠ [] → (∀ token ∈ tokens, ',' ∉ token) →
      List.Forall₂ WritesArgument tokens arguments →
      WritesArguments ([','].intercalate tokens) arguments

theorem unquote_quoted {quote : Char} (listed : quote ∈ quotes) (text : List Char) :
    unquote (quote :: (text ++ [quote])) = text := by
  have quote' : quote = '"' ∨ quote = '\'' := by simpa [quotes] using listed
  simp [unquote, quote']

theorem unquote_bare {token : List Char}
    (unpaired : ∀ quote ∈ quotes, ∀ text, token ≠ quote :: (text ++ [quote])) :
    unquote token = token := by
  cases token with
  | nil => rfl
  | cons quote rest =>
      rw [unquote, if_neg]
      intro pair
      simp only [Bool.and_eq_true, Bool.or_eq_true, decide_eq_true_eq,
        List.getLast?_eq_some_iff] at pair
      obtain ⟨either, inner, rfl⟩ := pair
      exact unpaired quote (by simpa [quotes] using either) inner rfl

theorem standsFor_iff {token text : List Char} : StandsFor token text ↔ unquote token = text := by
  constructor
  · intro stands
    cases stands with
    | quoted listed => exact unquote_quoted listed text
    | bare unpaired => exact unquote_bare unpaired
  · rintro rfl
    by_cases pair : ∃ quote ∈ quotes, ∃ text, token = quote :: (text ++ [quote])
    · obtain ⟨quote, listed, text, rfl⟩ := pair
      rw [unquote_quoted listed]
      exact .quoted listed
    · have unpaired : ∀ quote ∈ quotes, ∀ text, token ≠ quote :: (text ++ [quote]) :=
        fun quote listed text same => pair ⟨quote, listed, text, same⟩
      rw [unquote_bare unpaired]
      exact .bare unpaired

theorem readArgument_positional {token : List Char} (keyless : '=' ∉ token) :
    readArgument token = .positional (.text (String.ofList (unquote token))) := by
  have none : token.dropWhile (· != '=') = [] := List.dropWhile_eq_nil_iff.mpr
    fun char member => by simpa using ne_of_mem_of_not_mem member keyless
  rw [readArgument, none]

theorem readArgument_keyed {key : List Char} (keyless : '=' ∉ key) (token : List Char) :
    readArgument (key ++ '=' :: token) =
      .keyed (String.ofList key) (String.ofList (unquote token)) := by
  have stops : ∀ char, ('=' :: token).head? = some char → (char != '=') = false := by
    intro char head
    cases head
    decide
  have cut := Text.cut_at_stop (· != '=')
    (fun char member => by simpa using ne_of_mem_of_not_mem member keyless) stops
  rw [readArgument, cut.1, cut.2]

theorem writesArgument_iff {token : List Char} {argument : Argument} :
    WritesArgument token argument ↔ readArgument token = argument := by
  constructor
  · intro writes
    cases writes with
    | positional keyless stands => rw [readArgument_positional keyless, standsFor_iff.mp stands]
    | keyed keyless stands => rw [readArgument_keyed keyless, standsFor_iff.mp stands]
  · rintro rfl
    by_cases keyed : '=' ∈ token
    · obtain ⟨key, rest, rfl, keyless⟩ := List.eq_append_cons_of_mem keyed
      rw [readArgument_keyed keyless]
      exact .keyed keyless (standsFor_iff.mpr rfl)
    · rw [readArgument_positional keyed]
      exact .positional keyed (standsFor_iff.mpr rfl)

theorem not_mem_of_mem_splitOn {separator : Char} {chars part : List Char}
    (member : part ∈ chars.splitOn separator) : separator ∉ part := by
  induction chars generalizing part with
  | nil =>
      rw [List.splitOn_nil, List.mem_singleton] at member
      simp [member]
  | cons char rest ih =>
      rw [List.splitOn_cons_eq_if_modifyHead] at member
      split at member
      · rcases List.mem_cons.mp member with rfl | later
        · simp
        · exact ih later
      · rename_i apart
        obtain ⟨first, later, parts⟩ := List.exists_cons_of_ne_nil (List.splitOn_ne_nil separator rest)
        rw [parts] at ih member
        rcases List.mem_cons.mp member with rfl | inLater
        · intro inside
          rcases List.mem_cons.mp inside with same | inFirst
          · exact apart (by simpa using same.symm)
          · exact ih List.mem_cons_self inFirst
        · exact ih (List.mem_cons_of_mem _ inLater)

section Pairwise

variable {source target : Type} {sources : List source} {targets : List target}

theorem forall₂_iff_map {change : source → target} :
    List.Forall₂ (fun first second => change first = second) sources targets ↔
      sources.map change = targets := by
  rw [← List.forall₂_map_left_iff, List.forall₂_eq_eq_eq]

theorem exists_of_forall₂ {relates : source → target → Prop}
    (each : List.Forall₂ relates sources targets) :
    ∀ second ∈ targets, ∃ first ∈ sources, relates first second := by
  induction each with
  | nil => nofun
  | cons related _ ih =>
      rintro second member
      rcases List.mem_cons.mp member with rfl | later
      · exact ⟨_, List.mem_cons_self, related⟩
      · obtain ⟨first, inside, found⟩ := ih second later
        exact ⟨first, List.mem_cons_of_mem _ inside, found⟩

end Pairwise

theorem writesArguments_iff {chars : List Char} {arguments : List Argument} :
    WritesArguments chars arguments ↔ readArguments chars = arguments := by
  constructor
  · intro writes
    cases writes with
    | none => rfl
    | @listed tokens arguments some free each =>
        have tokensSome : tokens ≠ [] := by
          rintro rfl
          exact some rfl
        have same : tokens.map readArgument = arguments :=
          forall₂_iff_map.mp (each.imp fun _ _ writes => writesArgument_iff.mp writes)
        rw [readArguments, if_neg (by simpa using some),
          List.splitOn_intercalate ',' free tokensSome, same]
  · rintro rfl
    by_cases empty : chars = []
    · rw [empty]
      exact .none
    · have whole : [','].intercalate (chars.splitOn ',') = chars := List.intercalate_splitOn ','
      have some : [','].intercalate (chars.splitOn ',') ≠ [] := by rwa [whole]
      have writes : WritesArguments ([','].intercalate (chars.splitOn ','))
          ((chars.splitOn ',').map readArgument) := by
        refine .listed some (fun token member => not_mem_of_mem_splitOn member) ?_
        rw [List.forall₂_map_right_iff]
        exact List.forall₂_same.mpr fun token _ => writesArgument_iff.mpr rfl
      rw [readArguments, if_neg (by simpa using empty)]
      rwa [whole] at writes

end Directive

end RecordCheck
