import RecordCheck.Proofs.Rule.Message
import RecordCheck.Proofs.Rule.Registry
import RecordCheck.Proofs.Text.Cut
import RecordCheck.Rule.Standard

/-!
The rule `email`. Main statement: it accepts the addresses, and an address with one line feed after
it, and nothing else.
-/

namespace RecordCheck

namespace Email

/-- An address: no blanks, one at sign with something before it, and after it a domain in which some
dot has something on each side. -/
structure Address (chars : List Char) : Prop where
  solid : ∀ char ∈ chars, Text.isBlank char = false
  single : chars.count '@' = 1
  parts : ∃ user before after, chars = user ++ '@' :: (before ++ '.' :: after) ∧
    user ≠ [] ∧ before ≠ [] ∧ after ≠ []

/-- An address, perhaps with a line feed after it. -/
def AddressLine (chars : List Char) : Prop :=
  Address chars ∨ ∃ address, chars = address ++ ['\n'] ∧ Address address

theorem mem_inner_iff {char : Char} {chars : List Char} :
    char ∈ (chars.drop 1).dropLast ↔
      ∃ before after, chars = before ++ char :: after ∧ before ≠ [] ∧ after ≠ [] := by
  constructor
  · intro inner
    cases chars with
    | nil => simp at inner
    | cons first rest =>
        rw [List.drop_succ_cons, List.drop_zero] at inner
        have some : rest ≠ [] := by
          rintro rfl
          simp at inner
        obtain ⟨left, right, split⟩ := List.append_of_mem inner
        refine ⟨first :: left, right ++ [rest.getLast some], ?_, by simp, by simp⟩
        calc first :: rest
            = first :: (rest.dropLast ++ [rest.getLast some]) := by
              rw [List.dropLast_append_getLast]
          _ = (first :: left) ++ char :: (right ++ [rest.getLast some]) := by
              rw [split]
              simp
  · rintro ⟨before, after, rfl, someBefore, someAfter⟩
    obtain ⟨first, left, rfl⟩ := List.exists_cons_of_ne_nil someBefore
    rw [List.cons_append, List.drop_succ_cons, List.drop_zero, List.dropLast_append_cons,
      List.dropLast_cons_of_ne_nil someAfter]
    simp

theorem isPartChar_iff {char : Char} :
    isPartChar char = true ↔ Text.isBlank char = false ∧ char ≠ '@' := by
  simp [isPartChar]

theorem isDomain_iff {chars : List Char} :
    isDomain chars = true ↔ (∀ char ∈ chars, isPartChar char = true) ∧
      ∃ before after, chars = before ++ '.' :: after ∧ before ≠ [] ∧ after ≠ [] := by
  rw [isDomain, Bool.and_eq_true, List.all_eq_true, List.contains_iff_mem, mem_inner_iff]

theorem isAddress_iff_split {chars : List Char} :
    isAddress chars = true ↔ ∃ user domain, chars = user ++ '@' :: domain ∧ user ≠ [] ∧
      (∀ char ∈ user, isPartChar char = true) ∧ isDomain domain = true := by
  rw [isAddress, Bool.and_eq_true]
  constructor
  · rintro ⟨named, accepted⟩
    split at accepted
    · rename_i domain rest
      have whole := List.takeWhile_append_dropWhile (p := isPartChar) (l := chars)
      rw [rest] at whole
      exact ⟨chars.takeWhile isPartChar, domain, whole.symm, by simpa using named,
        List.all_eq_true.mp List.all_takeWhile, accepted⟩
    · cases accepted
  · rintro ⟨user, domain, rfl, some, goes, accepted⟩
    have stops : ∀ char, ('@' :: domain).head? = Option.some char → isPartChar char = false := by
      rintro _ ⟨⟩
      decide
    obtain ⟨taken, dropped⟩ := Text.cut_at_stop isPartChar goes stops
    rw [taken, dropped]
    exact ⟨by simpa using some, accepted⟩

theorem address_iff_split {chars : List Char} :
    Address chars ↔ ∃ user domain, chars = user ++ '@' :: domain ∧ user ≠ [] ∧
      (∀ char ∈ user, isPartChar char = true) ∧ isDomain domain = true := by
  constructor
  · rintro ⟨solid, single, user, before, after, rfl, some, someBefore, someAfter⟩
    rw [List.count_append, List.count_cons_self] at single
    have part : ∀ piece ⊆ user ++ '@' :: (before ++ '.' :: after), piece.count '@' = 0 →
        ∀ char ∈ piece, isPartChar char = true := by
      intro piece inside free char member
      refine isPartChar_iff.mpr ⟨solid char (inside member), ?_⟩
      rintro rfl
      exact List.count_eq_zero.mp free member
    refine ⟨user, before ++ '.' :: after, rfl, some, ?_, isDomain_iff.mpr ⟨?_, ?_⟩⟩
    · exact part user (List.subset_append_left _ _) (by omega)
    · exact part (before ++ '.' :: after) (by simp) (by omega)
    · exact ⟨before, after, rfl, someBefore, someAfter⟩
  · rintro ⟨user, domain, rfl, some, goes, accepted⟩
    obtain ⟨domainGoes, before, after, rfl, someBefore, someAfter⟩ := isDomain_iff.mp accepted
    refine ⟨?_, ?_, user, before, after, rfl, some, someBefore, someAfter⟩
    · intro char member
      rcases List.mem_append.mp member with inUser | member
      · exact (isPartChar_iff.mp (goes char inUser)).1
      · rcases List.mem_cons.mp member with rfl | inDomain
        · decide
        · exact (isPartChar_iff.mp (domainGoes char inDomain)).1
    · have userFree : '@' ∉ user := fun member => (isPartChar_iff.mp (goes _ member)).2 rfl
      have domainFree : '@' ∉ before ++ '.' :: after :=
        fun member => (isPartChar_iff.mp (domainGoes _ member)).2 rfl
      rw [List.count_append, List.count_cons_self, List.count_eq_zero.mpr userFree,
        List.count_eq_zero.mpr domainFree]

theorem isAddress_iff {chars : List Char} : isAddress chars = true ↔ Address chars := by
  rw [isAddress_iff_split, address_iff_split]

theorem accepts_iff {chars : List Char} : accepts chars = true ↔ AddressLine chars := by
  rw [accepts, Bool.or_eq_true, Bool.and_eq_true, isAddress_iff, isAddress_iff, AddressLine]
  refine or_congr_right ?_
  constructor
  · rintro ⟨last, address⟩
    obtain ⟨front, rfl⟩ := List.getLast?_eq_some_iff.mp (eq_of_beq last)
    rw [List.dropLast_concat] at address
    exact ⟨front, rfl, address⟩
  · rintro ⟨front, rfl, address⟩
    rw [List.dropLast_concat]
    exact ⟨by simp, address⟩

theorem addressLine_iff_of_last {chars : List Char} (last : chars.getLast? ≠ some '\n') :
    AddressLine chars ↔ Address chars := by
  constructor
  · rintro (address | ⟨front, rfl, _⟩)
    · exact address
    · simp at last
  · exact Or.inl

end Email

namespace Standard

def emailRule : Rule := .make "email" email "Value is not a valid email address" none false

theorem evaluate_email (text : String) (arguments : List Argument) (record : Value) :
    registry.evaluate "email" (.text text) arguments record =
      .ok (if Email.accepts text.toList then .valid
        else .invalid "VALIDATION_FAILED_EMAIL" "Value is not a valid email address") := by
  have known : registry.find? "email" = some emailRule := by rfl
  have asked : emailRule.predicate (.text text) arguments record =
      .ok (Email.accepts text.toList) := rfl
  have written : emailRule.message arguments = .ok "Value is not a valid email address" := by
    have free : '\x7b' ∉ emailRule.template.toList := by decide
    rw [Rule.message, fillTemplate_plain free]
    rfl
  have named : emailRule.errorId = "VALIDATION_FAILED_EMAIL" := by rfl
  rw [Registry.evaluate_of_answer known asked written, named]

/-- The rule `email` answers about every text: it accepts an address, and also an address with one
line feed after it; all other texts are complained about. -/
theorem email_accepts_address_lines (text : String) (arguments : List Argument) (record : Value) :
    ∃ outcome, registry.evaluate "email" (.text text) arguments record = .ok outcome ∧
      (outcome = .valid ↔ Email.AddressLine text.toList) ∧
      (outcome ≠ .valid → outcome =
        .invalid "VALIDATION_FAILED_EMAIL" "Value is not a valid email address") ∧
      (text.toList.getLast? ≠ some '\n' → (outcome = .valid ↔ Email.Address text.toList)) := by
  have valid : (if Email.accepts text.toList then Outcome.valid
      else .invalid "VALIDATION_FAILED_EMAIL" "Value is not a valid email address") = .valid ↔
        Email.AddressLine text.toList := by
    rw [← Email.accepts_iff]
    cases Email.accepts text.toList <;> simp
  refine ⟨_, evaluate_email text arguments record, valid, ?_, ?_⟩
  · intro complained
    rw [if_neg fun accepted => complained (if_pos accepted)]
  · intro last
    rw [valid, Email.addressLine_iff_of_last last]

example : registry.evaluate "email" (.text "a@b.c\n") [] (.dict []) = .ok .valid := by
  decide +kernel

end Standard

end RecordCheck
