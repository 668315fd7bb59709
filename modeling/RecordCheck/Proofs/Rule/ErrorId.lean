import Mathlib.Data.List.Basic
import RecordCheck.Proofs.Text.Characters
import RecordCheck.Proofs.Text.Cut
import RecordCheck.Rule.ErrorId

/-!
Identifiers of camel-case names. The underscores of an identifier stand at the ends of the name's
words and nowhere else. Main statement: the identifier is the words in capitals with underscores
between them, so the words can be read off it and names of different words are told apart.
-/

namespace RecordCheck

/-- The capital of an ASCII letter or digit is the one character that it is in ASCII. -/
theorem Text.upperChar_of_plain {char : Char} (plain : isPlainWord char = true) :
    upperChar char = [char.toUpper] :=
  plainWord_forall (fun char => upperChar char = [char.toUpper]) (by decide +kernel) plain

theorem Text.upper_of_plain {chars : List Char} (plain : ∀ char ∈ chars, isPlainWord char = true) :
    upper chars = chars.map Char.toUpper := by
  rw [upper, List.flatMap_congr fun char member => upperChar_of_plain (plain char member),
    List.map_eq_flatMap]

namespace ErrorId

/-- What every word ends in: lower-case letters and digits, at least one. -/
def Ending (chars : List Char) : Prop := chars ≠ [] ∧ ∀ char ∈ chars, endsWord char = true

instance (chars : List Char) : Decidable (Ending chars) :=
  decidable_of_iff (chars ≠ [] ∧ chars.all endsWord = true) (by rw [List.all_eq_true, Ending])

/-- A word after the first one: a capital and an ending. -/
def Capitalised : List Char → Prop
  | [] => False
  | capital :: ending => capital.isUpper = true ∧ Ending ending

instance : (chars : List Char) → Decidable (Capitalised chars)
  | [] => inferInstanceAs (Decidable False)
  | capital :: ending => inferInstanceAs (Decidable (capital.isUpper = true ∧ Ending ending))

def CamelCase : List String → Prop
  | [] => False
  | first :: later => Ending first.toList ∧ ∀ word ∈ later, Capitalised word.toList

instance : (words : List String) → Decidable (CamelCase words)
  | [] => inferInstanceAs (Decidable False)
  | first :: later =>
      inferInstanceAs (Decidable (Ending first.toList ∧ ∀ word ∈ later, Capitalised word.toList))

section Characters

variable {char : Char}

theorem plain_of_endsWord (ends : endsWord char = true) : Text.isPlainWord char = true := by
  simp only [Text.isPlainWord, Bool.or_eq_true, Bool.and_eq_true, decide_eq_true_eq]
  rcases Bool.or_eq_true_iff.mp ends with lower | digit
  · have bounds : 'a' ≤ char ∧ char ≤ 'z' :=
      (Bool.and_eq_true_iff.mp lower).imp of_decide_eq_true of_decide_eq_true
    exact Or.inl (Or.inl (Or.inl bounds))
  · exact Or.inl (Or.inr digit)

theorem plain_of_isUpper (capital : char.isUpper = true) : Text.isPlainWord char = true := by
  have bounds : 'A' ≤ char ∧ char ≤ 'Z' := of_decide_eq_true capital
  simp only [Text.isPlainWord, Bool.or_eq_true, Bool.and_eq_true, decide_eq_true_eq]
  exact Or.inl (Or.inl (Or.inr bounds))

theorem not_isUpper_of_endsWord (ends : endsWord char = true) : char.isUpper = false :=
  Text.plainWord_forall (fun char => endsWord char = true → char.isUpper = false)
    (by decide +kernel) (plain_of_endsWord ends) ends

theorem not_endsWord_of_isUpper (capital : char.isUpper = true) : endsWord char = false := by
  rw [← Bool.not_eq_true]
  intro ends
  rw [not_isUpper_of_endsWord ends] at capital
  cases capital

theorem toLower_toUpper (ends : endsWord char = true) : char.toUpper.toLower = char :=
  Text.plainWord_forall (fun char => endsWord char = true → char.toUpper.toLower = char)
    (by decide +kernel) (plain_of_endsWord ends) ends

theorem toUpper_of_isUpper (capital : char.isUpper = true) : char.toUpper = char :=
  Text.plainWord_forall (fun char => char.isUpper = true → char.toUpper = char)
    (by decide +kernel) (plain_of_isUpper capital) capital

theorem toUpper_ne_underscore (inside : endsWord char = true ∨ char.isUpper = true) :
    char.toUpper ≠ '_' :=
  Text.plainWord_forall
    (fun char => endsWord char = true ∨ char.isUpper = true → char.toUpper ≠ '_')
    (by decide +kernel) (inside.elim plain_of_endsWord plain_of_isUpper) inside

end Characters

theorem separate_capital {capital : Char} (isCapital : capital.isUpper = true)
    (rest : List Char) : separate (capital :: rest) = capital :: separate rest := by
  cases rest with
  | nil => rfl
  | cons next later =>
      rw [separate, not_endsWord_of_isUpper isCapital, Bool.false_and, if_neg Bool.false_ne_true]

theorem separate_ending {ending : List Char} (ends : Ending ending) (rest : List Char)
    (capitals : ∀ char, rest.head? = some char → char.isUpper = true) :
    separate (ending ++ rest) =
      ending ++ if rest.isEmpty then [] else '_' :: separate rest := by
  obtain ⟨some, each⟩ := ends
  induction ending with
  | nil => exact absurd rfl some
  | cons char later ih =>
      have ends := each char List.mem_cons_self
      cases later with
      | nil =>
          cases rest with
          | nil => rfl
          | cons capital more => simp [separate, ends, capitals capital rfl]
      | cons next more =>
          have goesOn := not_isUpper_of_endsWord (each next (by simp))
          have inner := ih (List.cons_ne_nil next more)
            fun other member => each other (List.mem_cons_of_mem char member)
          simp only [List.cons_append] at inner ⊢
          rw [separate, goesOn, Bool.and_false, if_neg Bool.false_ne_true, inner]

theorem separate_words {ending : List Char} (ends : Ending ending) {later : List (List Char)}
    (capitalised : ∀ word ∈ later, Capitalised word) :
    separate (ending ++ later.flatten) = ['_'].intercalate (ending :: later) := by
  rw [Text.intercalate_cons]
  induction later generalizing ending with
  | nil =>
      have alone := separate_ending ends [] nofun
      simpa using alone
  | cons word rest ih =>
      have own := capitalised word List.mem_cons_self
      cases word with
      | nil => cases own
      | cons capital inner =>
          obtain ⟨isCapital, innerEnds⟩ := own
          have after := ih innerEnds fun other member =>
            capitalised other (List.mem_cons_of_mem _ member)
          rw [List.flatten_cons, List.cons_append, separate_ending ends _ (by simp [isCapital]),
            separate_capital isCapital, after]
          simp

theorem joinRuns_of_word {chars : List Char} (word : ∀ char ∈ chars, Text.isWord char = true)
    (running : Bool) : joinRuns running chars = chars := by
  induction chars generalizing running with
  | nil => rfl
  | cons char rest ih =>
      rw [joinRuns, if_pos (word char List.mem_cons_self),
        ih fun other member => word other (List.mem_cons_of_mem _ member)]

theorem Capitalised.each {word : List Char} (capitalised : Capitalised word) :
    ∀ char ∈ word, endsWord char = true ∨ char.isUpper = true := by
  cases word with
  | nil => cases capitalised
  | cons capital ending =>
      intro char member
      rcases List.mem_cons.mp member with rfl | inside
      · exact Or.inr capitalised.1
      · exact Or.inl (capitalised.2.2 char inside)

def recapitalised : List Char → List Char
  | [] => []
  | capital :: ending => capital :: ending.map Char.toLower

def restored : List (List Char) → List (List Char)
  | [] => []
  | first :: later => first.map Char.toLower :: later.map recapitalised

theorem lowered_ending {ending : List Char} (ends : Ending ending) :
    (ending.map Char.toUpper).map Char.toLower = ending := by
  rw [List.map_map]
  exact (List.map_congr_left fun char member => toLower_toUpper (ends.2 char member)).trans
    (List.map_id' ending)

theorem recapitalised_upper {word : List Char} (capitalised : Capitalised word) :
    recapitalised (word.map Char.toUpper) = word := by
  cases word with
  | nil => cases capitalised
  | cons capital ending =>
      rw [List.map_cons, recapitalised, toUpper_of_isUpper capitalised.1,
        lowered_ending capitalised.2]

def capitals (word : String) : List Char := word.toList.map Char.toUpper

namespace CamelCase

variable {name : List String} (camel : CamelCase name)

include camel

theorem each : ∀ word ∈ name, ∀ char ∈ word.toList,
    endsWord char = true ∨ char.isUpper = true := by
  cases name with
  | nil => cases camel
  | cons first later =>
      intro word member char inside
      rcases List.mem_cons.mp member with rfl | after
      · exact Or.inl (camel.1.2 char inside)
      · exact (camel.2 word after).each char inside

theorem separate_join : separate (String.join name).toList =
    ['_'].intercalate (name.map String.toList) := by
  cases name with
  | nil => cases camel
  | cons first later =>
      have capitalised : ∀ word ∈ later.map String.toList, Capitalised word := by
        simpa using camel.2
      rw [String.toList_join, List.flatMap_cons, List.flatMap_def,
        separate_words camel.1 capitalised, List.map_cons]

theorem plain : ∀ char ∈ ['_'].intercalate (name.map String.toList),
    Text.isPlainWord char = true := by
  have each : ∀ word ∈ name, ∀ char ∈ word.toList, Text.isPlainWord char = true :=
    fun word member char inside => (camel.each word member char inside).elim plain_of_endsWord
      plain_of_isUpper
  cases name with
  | nil => cases camel
  | cons first later =>
      intro char member
      rw [List.map_cons, Text.intercalate_cons, List.flatMap_map] at member
      rcases List.mem_append.mp member with inFirst | inLater
      · exact each first List.mem_cons_self char inFirst
      · obtain ⟨word, listed, inside⟩ := List.mem_flatMap.mp inLater
        rcases List.mem_cons.mp inside with rfl | inWord
        · decide
        · exact each word (List.mem_cons_of_mem first listed) char inWord

theorem words_join : words (String.join name).toList =
    ['_'].intercalate (name.map capitals) := by
  have plain := camel.plain
  rw [words, camel.separate_join, joinRuns_of_word fun char member =>
    Text.isWord_of_plain (plain char member), Text.upper_of_plain plain]
  cases name with
  | nil => cases camel
  | cons first later =>
      rw [List.map_cons, List.map_cons, Text.intercalate_cons, Text.intercalate_cons, capitals]
      simp [List.map_flatMap, List.flatMap_map, capitals]

theorem splitOn_words : (words (String.join name).toList).splitOn '_' = name.map capitals := by
  rw [camel.words_join]
  refine List.splitOn_intercalate '_' ?_ ?_
  · intro written member inside
    obtain ⟨word, listed, rfl⟩ := List.mem_map.mp member
    obtain ⟨char, there, same⟩ := List.mem_map.mp inside
    exact toUpper_ne_underscore (camel.each word listed char there) same
  · rintro empty
    rw [List.map_eq_nil_iff.mp empty] at camel
    cases camel

theorem restored_capitals : restored (name.map capitals) = name.map String.toList := by
  cases name with
  | nil => cases camel
  | cons first later =>
      have recapitalised : ∀ word ∈ later, recapitalised (capitals word) = word.toList :=
        fun word member => recapitalised_upper (camel.2 word member)
      rw [List.map_cons, restored, capitals, lowered_ending camel.1, List.map_map]
      exact congrArg (first.toList :: ·) (List.map_congr_left recapitalised)

end CamelCase

/-- The identifier of a camel-case name is its words in capitals, joined by underscores, and names
of different words have different identifiers. -/
theorem camelCase_names_identified (name other : List String) (camel : CamelCase name)
    (otherCamel : CamelCase other) :
    ofName (String.join name) =
      "VALIDATION_FAILED_" ++ "_".intercalate (name.map String.toUpper) ∧
    (ofName (String.join name) = ofName (String.join other) ↔ name = other) := by
  refine ⟨congrArg ("VALIDATION_FAILED_" ++ ·) ?_, fun same => ?_, fun same => by rw [same]⟩
  · apply String.toList_injective
    rw [String.toList_ofList, camel.words_join, String.toList_intercalate, List.map_map]
    simp only [Function.comp_def, String.toUpper, String.toList_map]
    rfl
  · have identifiers : words (String.join name).toList = words (String.join other).toList :=
      String.ofList_injective ((String.append_right_inj _).mp same)
    have lists : name.map String.toList = other.map String.toList := by
      rw [← camel.restored_capitals, ← camel.splitOn_words, identifiers,
        otherCamel.splitOn_words, otherCamel.restored_capitals]
    exact (List.map_inj_right fun _ _ => String.toList_injective).mp lists

/-- Digits may stand anywhere in a word. -/
theorem lengthNames_identified : CamelCase ["min", "Length2"] ∧ CamelCase ["min2", "Length"] ∧
    ofName (String.join ["min", "Length2"]) =
      "VALIDATION_FAILED_" ++ "_".intercalate (["min", "Length2"].map String.toUpper) ∧
    ofName (String.join ["min", "Length2"]) ≠ ofName (String.join ["min2", "Length"]) := by
  have camel : CamelCase ["min", "Length2"] := by decide
  have otherCamel : CamelCase ["min2", "Length"] := by decide
  obtain ⟨identifier, same⟩ := camelCase_names_identified _ _ camel otherCamel
  exact ⟨camel, otherCamel, identifier, fun equal => absurd (same.mp equal) (by decide)⟩

end ErrorId

end RecordCheck
