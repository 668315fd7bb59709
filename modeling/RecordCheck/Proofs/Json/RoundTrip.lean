import RecordCheck.Proofs.Entries
import RecordCheck.Proofs.Json.Integers
import RecordCheck.Proofs.Json.Strings
import RecordCheck.Proofs.Value.Tree

/-!
Documents that are read after they were written. A value is read up to what closes it, whatever
follows that, so a container is read part by part. Each character that was written allows for two
steps of reading. An integer that can be written has few enough digits to be read.
-/

namespace RecordCheck

/-- Values that a document tells as they are: truth values, texts, null, integers, lists of such
values and mappings to them from distinct texts. -/
inductive Value.Document : Value → Prop
  | null : Document .null
  | bool (flag : Bool) : Document (.bool flag)
  | int (integer : Int) : Document (.int integer)
  | text (content : String) : Document (.text content)
  | list {items : List Value} : (∀ item ∈ items, Document item) → Document (.list items)
  | dict {entries : List (Key × Value)} : (entries.map Prod.fst).Nodup →
      (∀ entry ∈ entries, ∃ name, entry.1 = .text name) →
      (∀ entry ∈ entries, Document entry.2) → Document (.dict entries)

namespace Json

/-- What begins neither with a blank nor with a closing bracket. -/
def Opens (written : List Char) : Prop :=
  ∃ first later, written = first :: later ∧ isGap first = false ∧ first ∉ [']', '\x7d']

variable {written : List Char}

theorem opens_cons {first : Char} (noGap : isGap first = false) (noBracket : first ∉ [']', '\x7d'])
    (later : List Char) : Opens (first :: later) :=
  ⟨first, later, rfl, noGap, noBracket⟩

theorem Opens.append (opens : Opens written) (rest : List Char) : Opens (written ++ rest) := by
  obtain ⟨first, later, rfl, noGap, noBracket⟩ := opens
  exact opens_cons noGap noBracket (later ++ rest)

theorem Opens.skipGaps (opens : Opens written) : skipGaps written = written := by
  obtain ⟨first, later, rfl, noGap, _⟩ := opens
  rw [Json.skipGaps, List.dropWhile_cons_of_neg (by simp [noGap])]

theorem Opens.skipGaps_blank (opens : Opens written) : Json.skipGaps (' ' :: written) = written :=
  opens.skipGaps

theorem opens_digits (number : Nat) : Opens (Nat.toDigits 10 number) := by
  obtain ⟨first, later, digits, digit, _⟩ := digits_cons number
  have table : ∀ char ∈ [' ', '\t', '\n', '\r', ']', '\x7d'], Char.isDigit char = false := by simp
  have apart : first ∉ [' ', '\t', '\n', '\r', ']', '\x7d'] := by
    intro member
    rw [table first member] at digit
    cases digit
  simp only [List.mem_cons, List.not_mem_nil, or_false, not_or] at apart
  rw [digits]
  exact opens_cons (by simp [isGap, apart]) (by simp [apart]) later

/-- A value that is read where it was written, up to what closes it. -/
structure ReadsBack (value : Value) : Prop where
  opens : Opens (chars value)
  reads : ∀ (bound : Nat) (rest : List Char), 2 * (chars value).length ≤ bound → Closes rest →
    readValue bound (chars value ++ rest) = .ok (value, rest)

/-- What opens takes a step to be read, so the bound allows for one. -/
theorem ReadsBack.of_step {value : Value} (opens : Opens (chars value))
    (step : ∀ {bound : Nat} {rest : List Char}, 2 * (chars value).length ≤ bound + 1 →
      Closes rest → readValue (bound + 1) (chars value ++ rest) = .ok (value, rest)) :
    ReadsBack value where
  opens := opens
  reads := by
    intro bound rest enough closes
    obtain ⟨first, later, written, _⟩ := opens
    rw [written, List.length_cons] at enough
    obtain ⟨bound, rfl⟩ := Nat.exists_eq_succ_of_ne_zero (n := bound) (by omega)
    rw [← List.length_cons, ← written] at enough
    exact step enough closes

theorem readsBack_null : ReadsBack .null :=
  .of_step (opens_cons (by decide) (by decide) _) fun _ _ => rfl

theorem readsBack_bool (flag : Bool) : ReadsBack (.bool flag) := by
  cases flag with
  | false => exact .of_step (opens_cons (by decide) (by decide) _) fun _ _ => rfl
  | true => exact .of_step (opens_cons (by decide) (by decide) _) fun _ _ => rfl

theorem readsBack_text (content : String) : ReadsBack (.text content) := by
  refine .of_step (opens_cons (by decide) (by decide) _) fun {bound rest} _ _ => ?_
  have read := readString_escaped content rest
  rw [chars, stringChars, List.cons_append, List.cons_append, readValue, List.append_assoc,
    List.singleton_append, read]
  rfl

section Integers

variable {first : Char} (digit : first.isDigit = true) (bound : Nat) (later : List Char)
include digit

theorem readValue_digit : readValue (bound + 1) (first :: later) = readNumber (first :: later) := by
  rw [readValue]
  all_goals
    rintro _ ⟨⟩
    cases digit

theorem readValue_minus :
    readValue (bound + 1) ('-' :: first :: later) = readNumber ('-' :: first :: later) := by
  rw [readValue]
  all_goals rintro _ ⟨⟩ <;> cases digit

end Integers

theorem readValue_toString (bound : Nat) (integer : Int) (rest : List Char) :
    readValue (bound + 1) ((toString integer).toList ++ rest) =
      readNumber ((toString integer).toList ++ rest) := by
  obtain ⟨first, later, digits, digit, _⟩ := digits_cons integer.natAbs
  rw [toList_toString, digits]
  split
  · exact readValue_minus digit bound (later ++ rest)
  · exact readValue_digit digit bound (later ++ rest)

theorem opens_toString (integer : Int) : Opens (toString integer).toList := by
  rw [toList_toString]
  split
  · exact opens_cons (by decide) (by decide) _
  · exact opens_digits integer.natAbs

theorem readsBack_int {integer : Int} (fits : Whole.writable integer = true) :
    ReadsBack (.int integer) := by
  refine .of_step (opens_toString integer) fun {bound rest} _ closes => ?_
  rw [chars, readValue_toString, readNumber_toString closes fits]

section Items

variable {bound : Nat} {item : Value} {more rest : List Char}

theorem readValue_list (opens : Opens written) : readValue (bound + 1) ('[' :: written) =
    (readItems bound written).map fun (items, after) => (.list items, after) := by
  rw [readValue, opens.skipGaps]
  obtain ⟨first, later, rfl, _, noBracket⟩ := opens
  split
  · rename_i same
    cases same
    exact absurd (by decide) noBracket
  · rfl

theorem skipGaps_comma (rest : List Char) : skipGaps (',' :: rest) = ',' :: rest := rfl

theorem readItems_last (read : readValue bound written = .ok (item, ']' :: rest)) :
    readItems (bound + 1) written = .ok ([item], rest) := by
  rw [readItems, read]
  rfl

theorem readItems_next (read : readValue bound written = .ok (item, ',' :: ' ' :: more))
    (opens : Opens more) : readItems (bound + 1) written =
      (readItems bound more).map fun (items, after) => (item :: items, after) := by
  rw [readItems, read]
  simp only [Except.bind, skipGaps_comma, opens.skipGaps_blank]

theorem laterItems_cons (item : Value) (later : List Value) :
    laterItems (item :: later) = ',' :: ' ' :: itemChars (item :: later) := rfl

theorem opens_itemChars {item : Value} (opens : Opens (chars item)) (later : List Value)
    (rest : List Char) : Opens (itemChars (item :: later) ++ rest) := by
  rw [itemChars, List.append_assoc]
  exact opens.append _

/-- Items are read one by one, each up to the comma or the bracket after it. -/
theorem readItems_itemChars {later : List Value}
    (inside : ∀ value ∈ item :: later, ReadsBack value) (bound : Nat)
    (enough : 2 * (itemChars (item :: later)).length ≤ bound) (rest : List Char) :
    readItems (bound + 1) (itemChars (item :: later) ++ ']' :: rest) =
      .ok (item :: later, rest) := by
  -- an item takes one step, and the separator after it was written with two characters
  induction later generalizing item bound with
  | nil =>
      have read := (inside item List.mem_cons_self).reads bound (']' :: rest)
      rw [itemChars, laterItems, List.append_nil] at enough ⊢
      exact readItems_last (read enough (closes_cons (by decide) rest))
  | cons next later ih =>
      have opens := opens_itemChars (inside next (by simp)).opens later (']' :: rest)
      have others := fun value member => inside value (List.mem_cons_of_mem item member)
      rw [itemChars, List.length_append, laterItems_cons, List.length_cons,
        List.length_cons] at enough
      obtain ⟨bound, rfl⟩ := Nat.exists_eq_succ_of_ne_zero (n := bound) (by omega)
      have read := (inside item List.mem_cons_self).reads (bound + 1)
        (',' :: ' ' :: (itemChars (next :: later) ++ ']' :: rest)) (by omega)
        (closes_cons (by decide) _)
      rw [itemChars, List.append_assoc, laterItems_cons, List.cons_append, List.cons_append,
        readItems_next read opens, ih others bound (by omega)]
      rfl

theorem readsBack_list {items : List Value} (inside : ∀ item ∈ items, ReadsBack item) :
    ReadsBack (.list items) := by
  refine .of_step (opens_cons (by decide) (by decide) _) fun {bound rest} enough _ => ?_
  cases items with
  | nil => rfl
  | cons item later =>
      have opens := opens_itemChars (inside item List.mem_cons_self).opens later (']' :: rest)
      rw [chars, List.length_append, List.length_cons, List.length_singleton] at enough
      obtain ⟨bound, rfl⟩ := Nat.exists_eq_succ_of_ne_zero (n := bound) (by omega)
      have read := readItems_itemChars inside bound (by omega) rest
      rw [chars, List.cons_append, List.cons_append, List.append_assoc, List.singleton_append,
        readValue_list opens, read]
      rfl

end Items

section Members

variable {bound : Nat} {name : String} {item : Value} {more rest : List Char}

def memberText (name : String) (written : List Char) : List Char :=
  stringChars name.toList ++ ':' :: ' ' :: written

theorem readValue_dict (opens : Opens written) : readValue (bound + 1) ('\x7b' :: written) =
    (readMembers bound written).map fun (members, after) => (Value.ofPairs members, after) := by
  rw [readValue, opens.skipGaps]
  obtain ⟨first, later, rfl, _, noBracket⟩ := opens
  split
  · rename_i same
    cases same
    exact absurd (by decide) noBracket
  · rfl

theorem memberText_eq (name : String) (written : List Char) : memberText name written =
    '"' :: (name.toList.flatMap escapeChar ++ '"' :: ':' :: ' ' :: written) := by
  simp [memberText, stringChars]

theorem skipGaps_colon (rest : List Char) : skipGaps (':' :: rest) = ':' :: rest := rfl

theorem readMembers_last (opens : Opens written)
    (read : readValue bound written = .ok (item, '\x7d' :: rest)) :
    readMembers (bound + 1) (memberText name written) = .ok ([(.text name, item)], rest) := by
  have brace : skipGaps ('\x7d' :: rest) = '\x7d' :: rest := rfl
  rw [memberText_eq, readMembers, readString_escaped]
  simp only [Except.bind, skipGaps_colon, opens.skipGaps_blank, read, brace]

theorem readMembers_next (opens : Opens written) (moreOpens : Opens more)
    (read : readValue bound written = .ok (item, ',' :: ' ' :: more)) :
    readMembers (bound + 1) (memberText name written) =
      (readMembers bound more).map fun (members, after) =>
        ((.text name, item) :: members, after) := by
  rw [memberText_eq, readMembers, readString_escaped]
  simp only [Except.bind, skipGaps_colon, opens.skipGaps_blank, read, skipGaps_comma,
    moreOpens.skipGaps_blank]

theorem memberChars_cons (name : String) (item : Value) (later : List (Key × Value)) :
    memberChars ((.text name, item) :: later) =
      memberText name (chars item) ++ laterMembers later := rfl

theorem laterMembers_cons (member : Key × Value) (later : List (Key × Value)) :
    laterMembers (member :: later) = ',' :: ' ' :: memberChars (member :: later) := rfl

theorem memberText_append (name : String) (written rest : List Char) :
    memberText name written ++ rest = memberText name (written ++ rest) := by
  simp [memberText]

theorem length_memberText (name : String) (written : List Char) :
    written.length + 2 ≤ (memberText name written).length := by
  simp only [memberText, List.length_append, List.length_cons]
  omega

def MemberReadsBack (member : Key × Value) : Prop :=
  ∃ name item, member = (.text name, item) ∧ ReadsBack item

theorem opens_memberChars {member : Key × Value} (reads : MemberReadsBack member)
    (later : List (Key × Value)) (rest : List Char) :
    Opens (memberChars (member :: later) ++ rest) := by
  obtain ⟨name, item, rfl, _⟩ := reads
  exact opens_cons (by decide) (by decide) _

/-- Members are read one by one, each up to the comma or the brace after it. -/
theorem readMembers_memberChars {member : Key × Value} {later : List (Key × Value)}
    (inside : ∀ entry ∈ member :: later, MemberReadsBack entry) (bound : Nat)
    (enough : 2 * (memberChars (member :: later)).length ≤ bound) (rest : List Char) :
    readMembers (bound + 1) (memberChars (member :: later) ++ '\x7d' :: rest) =
      .ok (member :: later, rest) := by
  induction later generalizing member bound with
  | nil =>
      obtain ⟨name, item, rfl, itemReads⟩ := inside member List.mem_cons_self
      have text := length_memberText name (chars item)
      rw [memberChars_cons, laterMembers, List.append_nil] at enough ⊢
      rw [memberText_append]
      have read := itemReads.reads bound ('\x7d' :: rest) (by omega) (closes_cons (by decide) rest)
      exact readMembers_last (itemReads.opens.append _) read
  | cons next later ih =>
      obtain ⟨name, item, rfl, itemReads⟩ := inside member List.mem_cons_self
      have text := length_memberText name (chars item)
      have moreOpens := opens_memberChars (inside next (by simp)) later ('\x7d' :: rest)
      rw [memberChars_cons, List.length_append, laterMembers_cons, List.length_cons,
        List.length_cons] at enough
      obtain ⟨bound, rfl⟩ := Nat.exists_eq_succ_of_ne_zero (n := bound) (by omega)
      have read := itemReads.reads (bound + 1)
        (',' :: ' ' :: (memberChars (next :: later) ++ '\x7d' :: rest)) (by omega)
        (closes_cons (by decide) _)
      have others := fun entry member => inside entry (List.mem_cons_of_mem _ member)
      rw [memberChars_cons, List.append_assoc, laterMembers_cons, List.cons_append,
        List.cons_append, memberText_append,
        readMembers_next (itemReads.opens.append _) moreOpens read, ih others bound (by omega)]
      rfl

theorem ofPairs_of_distinct {entries : List (Key × Value)} (distinct : (entries.map Prod.fst).Nodup)
    (named : ∀ entry ∈ entries, ∃ name, entry.1 = .text name) :
    Value.ofPairs entries = .dict entries := by
  have apart : entries.Pairwise fun left right => left.1.same right.1 = false := by
    refine (List.pairwise_map.mp distinct).imp_of_mem fun {left right} leftIn rightIn differs => ?_
    obtain ⟨leftName, leftKey⟩ := named left leftIn
    obtain ⟨rightName, rightKey⟩ := named right rightIn
    rw [leftKey, rightKey] at differs ⊢
    simpa [Key.same, Key.integer?] using differs
  have written : Entries.ofPairs Key.same entries = entries := Entries.foldl_put_of_pairwise apart
  rw [Value.ofPairs, written]

theorem readsBack_dict {entries : List (Key × Value)} (distinct : (entries.map Prod.fst).Nodup)
    (inside : ∀ entry ∈ entries, MemberReadsBack entry) : ReadsBack (.dict entries) := by
  refine .of_step (opens_cons (by decide) (by decide) _) fun {bound rest} enough _ => ?_
  have pairs : Value.ofPairs entries = .dict entries := by
    refine ofPairs_of_distinct distinct fun entry member => ?_
    obtain ⟨name, item, rfl, _⟩ := inside entry member
    exact ⟨name, rfl⟩
  cases entries with
  | nil => rfl
  | cons member later =>
      have opens := opens_memberChars (inside member List.mem_cons_self) later ('\x7d' :: rest)
      rw [chars, List.length_append, List.length_cons, List.length_singleton] at enough
      obtain ⟨bound, rfl⟩ := Nat.exists_eq_succ_of_ne_zero (n := bound) (by omega)
      have read := readMembers_memberChars inside bound (by omega) rest
      rw [chars, List.cons_append, List.cons_append, List.append_assoc, List.singleton_append,
        readValue_dict opens, read, ← pairs]
      rfl

end Members

theorem readsBack_of_document {value : Value} (document : value.Document)
    (fits : value.writable = true) : ReadsBack value := by
  induction document with
  | null => exact readsBack_null
  | bool flag => exact readsBack_bool flag
  | int integer => exact readsBack_int fits
  | text content => exact readsBack_text content
  | list _ items =>
      have each := Value.writableItems_iff.mp fits
      exact readsBack_list fun item member => items item member (each item member)
  | dict distinct named _ items =>
      have each := Value.writableEntries_iff.mp fits
      refine readsBack_dict distinct fun entry member => ?_
      obtain ⟨name, text⟩ := named entry member
      exact ⟨name, entry.2, Prod.ext text rfl, items entry member (each entry member).2⟩

theorem read_chars {value : Value} (document : value.Document) (fits : value.writable = true) :
    read (chars value) = .ok value := by
  obtain ⟨opens, reads⟩ := readsBack_of_document document fits
  have whole := reads (2 * (chars value).length + 2) [] (by omega) closes_nil
  rw [List.append_nil] at whole
  rw [read, opens.skipGaps, whole]
  rfl

end Json

end RecordCheck
