import RecordCheck.Json.Reader
import RecordCheck.Json.Writer

/-!
Strings of documents. Each character is escaped by itself, and what is read of its escape are its
16-bit units: one, or a pair for a character above the first plane. Main statement: a written
string is read as its content, whatever follows it.
-/

namespace RecordCheck.Json

def units (char : Char) : List Nat :=
  if char.toNat < 0x10000 then [char.toNat]
  else [0xD800 + (char.toNat - 0x10000) / 0x400, 0xDC00 + (char.toNat - 0x10000) % 0x400]

theorem hexValue?_hexDigit {digit : Nat} (small : digit < 16) :
    hexValue? (Text.hexDigit digit) = some digit := by
  have table : ∀ digit < 16, hexValue? (Text.hexDigit digit) = some digit := by decide
  exact table digit small

/-- Points that are read in front of others. -/
def before (first : List Nat) (read : List Nat × List Char) : List Nat × List Char :=
  (first ++ read.1, read.2)

theorem points_unitEscape {unit : Nat} (small : unit < 0x10000) (rest : List Char) :
    points (unitEscape unit ++ rest) = (points rest).map (before [unit]) := by
  have digits : Text.hexDigits 4 unit = [Text.hexDigit (unit / 16 / 16 / 16 % 16),
      Text.hexDigit (unit / 16 / 16 % 16), Text.hexDigit (unit / 16 % 16),
      Text.hexDigit (unit % 16)] := rfl
  have value : (((unit / 16 / 16 / 16 % 16) * 16 + unit / 16 / 16 % 16) * 16 +
      unit / 16 % 16) * 16 + unit % 16 = unit := by omega
  rw [unitEscape, digits]
  simp only [List.cons_append, List.nil_append]
  rw [points, unit?, hexValue?_hexDigit (Nat.mod_lt _ (by decide)),
    hexValue?_hexDigit (Nat.mod_lt _ (by decide)), hexValue?_hexDigit (Nat.mod_lt _ (by decide)),
    hexValue?_hexDigit (Nat.mod_lt _ (by decide))]
  simp only [value]
  cases points rest <;> rfl

theorem points_units {first : List Nat} (small : ∀ unit ∈ first, unit < 0x10000)
    (rest : List Char) :
    points (first.flatMap unitEscape ++ rest) = (points rest).map (before first) := by
  induction first with
  | nil =>
      rw [List.flatMap_nil, List.nil_append]
      cases points rest <;> rfl
  | cons unit later ih =>
      rw [List.flatMap_cons, List.append_assoc, points_unitEscape (small unit List.mem_cons_self),
        ih fun other member => small other (List.mem_cons_of_mem unit member), Option.map_map]
      rfl

theorem points_short {letter char : Char} (short : shortEscape? letter = some char)
    (noUnit : letter ≠ 'u') (rest : List Char) :
    points ('\\' :: letter :: rest) = (points rest).map (before [char.toNat]) := by
  rw [points, short]
  · cases points rest <;> rfl
  · exact fun _ _ _ _ _ same => absurd same noUnit

theorem points_plain {char : Char} (noQuote : char ≠ '"') (noEscape : char ≠ '\\')
    (printed : 0x20 ≤ char.toNat) (rest : List Char) :
    points (char :: rest) = (points rest).map (before [char.toNat]) := by
  rw [points, decide_eq_false noEscape, decide_eq_false (Nat.not_lt.mpr printed)]
  · cases points rest <;> rfl
  · exact fun same => absurd same noQuote
  · exact fun _ _ _ _ _ same => absurd same noEscape
  · exact fun _ _ same => absurd same noEscape

theorem toNat_valid (char : Char) :
    char.toNat < 0xD800 ∨ 0xDFFF < char.toNat ∧ char.toNat < 0x110000 := char.valid

theorem units_small (char : Char) : ∀ unit ∈ units char, unit < 0x10000 := by
  have valid := toNat_valid char
  intro unit member
  unfold units at member
  split at member
  · rw [List.mem_singleton.mp member]
    assumption
  · simp only [List.mem_cons, List.not_mem_nil, or_false] at member
    omega

/-- A character is written by a letter of its own, as it is, or by its units. -/
theorem escapeChar_cases (char : Char) :
    (∃ letter, escapeChar char = ['\\', letter] ∧ shortEscape? letter = some char ∧
      letter ≠ 'u' ∧ units char = [char.toNat]) ∨
    (escapeChar char = [char] ∧ char ≠ '"' ∧ char ≠ '\\' ∧ 0x20 ≤ char.toNat ∧
      units char = [char.toNat]) ∨
    escapeChar char = (units char).flatMap unitEscape := by
  by_cases short : char ∈ ['"', '\\', '\n', '\r', '\t', '\x08', '\x0c']
  · left
    simp only [List.mem_cons, List.not_mem_nil, or_false] at short
    rcases short with rfl | rfl | rfl | rfl | rfl | rfl | rfl
    all_goals exact ⟨_, rfl, rfl, by decide, rfl⟩
  · right
    simp only [List.mem_cons, List.not_mem_nil, or_false, not_or] at short
    have chosen : escapeChar char = if 0x20 ≤ char.toNat && char.toNat < 0x7F then [char]
        else (units char).flatMap unitEscape := by
      simp only [escapeChar, short, if_false, units]
      by_cases single : char.toNat < 0x10000 <;> simp [single]
    by_cases printed : 0x20 ≤ char.toNat ∧ char.toNat < 0x7F
    · have single : units char = [char.toNat] := if_pos (by omega)
      exact Or.inl ⟨by simp [chosen, printed], short.1, short.2.1, printed.1, single⟩
    · exact Or.inr (by simp [chosen, printed])

theorem points_escapeChar (char : Char) (rest : List Char) :
    points (escapeChar char ++ rest) = (points rest).map (before (units char)) := by
  rcases escapeChar_cases char with ⟨letter, written, short, noUnit, single⟩ |
    ⟨written, noQuote, noEscape, printed, single⟩ | written
  · rw [written, single]
    exact points_short short noUnit rest
  · rw [written, single]
    exact points_plain noQuote noEscape printed rest
  · rw [written]
    exact points_units (units_small char) rest

theorem points_escaped (content rest : List Char) :
    points (content.flatMap escapeChar ++ '"' :: rest) = some (content.flatMap units, rest) := by
  induction content with
  | nil => rfl
  | cons char later ih =>
      rw [List.flatMap_cons, List.append_assoc, points_escapeChar, ih]
      rfl

theorem joinUnits_units (char : Char) (rest : List Nat) :
    joinUnits (units char ++ rest) = (joinUnits rest).map (char :: ·) := by
  have valid := toNat_valid char
  by_cases single : char.toNat < 0x10000
  · have outside : ¬(0xD800 ≤ char.toNat ∧ char.toNat < 0xE000) := by omega
    rw [units, if_pos single, List.singleton_append]
    cases rest with
    | nil => simp [joinUnits, outside]
    | cons next later =>
        have notFirst : ¬(0xD800 ≤ char.toNat ∧ char.toNat < 0xDC00) := by omega
        have notSecond : ¬(0xDC00 ≤ char.toNat ∧ char.toNat < 0xE000) := by omega
        simp [joinUnits, notFirst, notSecond]
  · have whole : 0x10000 + (0xD800 + (char.toNat - 0x10000) / 0x400 - 0xD800) * 0x400 +
        (0xDC00 + (char.toNat - 0x10000) % 0x400 - 0xDC00) = char.toNat := by omega
    have first : 0xD800 + (char.toNat - 0x10000) / 0x400 < 0xDC00 := by omega
    have second : 0xDC00 + (char.toNat - 0x10000) % 0x400 < 0xE000 := by omega
    rw [units, if_neg single, List.cons_append, List.singleton_append, joinUnits, if_pos, if_pos,
      whole, Char.ofNat_toNat]
    · simp [second]
    · simp [first]

theorem joinUnits_content (content : List Char) :
    joinUnits (content.flatMap units) = some content := by
  induction content with
  | nil => rfl
  | cons char later ih => rw [List.flatMap_cons, joinUnits_units, ih, Option.map_some]

theorem readString_escaped (content : String) (rest : List Char) :
    readString (content.toList.flatMap escapeChar ++ '"' :: rest) = .ok (content, rest) := by
  rw [readString, points_escaped]
  simp only [joinUnits_content, String.ofList_toList]

end RecordCheck.Json
