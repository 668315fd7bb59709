import RecordCheck.Proofs.Cast
import RecordCheck.Proofs.Json.RoundTrip
import RecordCheck.Source

/-!
Schemas that were written as texts and kept in files. Main statement: the text form of a mapping,
kept in UTF-8, is loaded as the mapping itself, in every part and in its order. A mapping has one
unless an integer in it has too many digits.
-/

namespace RecordCheck.Source

theorem load_utf8 (content : String) : load (some content.toUTF8) = ofText content := by
  have decoded : String.fromUTF8? content.toUTF8 = some content := by
    rw [String.fromUTF8?, String.toUTF8_eq_toByteArray, dif_pos content.isValidUTF8]
    rfl
  rw [load, decoded]

theorem ofText_chars {value : Value} {entries : List (Key × Value)}
    (read : Json.read (Json.chars value) = .ok (.dict entries)) :
    ofText (String.ofList (Json.chars value)) = .ok (.dict entries) := by
  rw [ofText, String.toList_ofList, read]

/-- A mapping that is cast to a text and kept in a file is loaded as it was. It can be cast exactly if
it can be written; otherwise the cast fails. -/
theorem cast_text_loaded {entries : List (Key × Value)} (document : (Value.dict entries).Document) :
    ((Value.dict entries).writable = true →
      ∃ content, (Value.dict entries).cast (.scalar .string) = .ok (.text content) ∧
        load (some content.toUTF8) = .ok (.dict entries)) ∧
    ((Value.dict entries).writable = false →
      (Value.dict entries).cast (.scalar .string) = .error (.integer .unwritable)) := by
  constructor
  · intro fits
    refine ⟨String.ofList (Json.chars (.dict entries)), ?_, ?_⟩
    · rw [Value.cast, Value.castString, Value.textForm, Json.write, fits]
      rfl
    · rw [load_utf8, ofText_chars (Json.read_chars document fits)]
  · intro long
    exact Value.castString_error_iff.mpr ⟨long, rfl⟩

def nestedMapping : List (Key × Value) :=
  [(.text "a \"b\"", .dict [(.text "", .list [.null, .int (-12), .list [], .dict []])]),
    (.text "a", .text "\x01\\é\n😀"),
    (.text "1", .bool true)]

theorem nestedMapping_loaded : (Value.dict nestedMapping).Document ∧
    ∃ content, (Value.dict nestedMapping).cast (.scalar .string) = .ok (.text content) ∧
      load (some content.toUTF8) = .ok (.dict nestedMapping) := by
  have inner : (Value.list [.null, .int (-12), .list [], .dict []]).Document := by
    refine .list ?_
    simp only [List.forall_mem_cons]
    exact ⟨.null, .int _, .list nofun, .dict .nil nofun nofun, nofun⟩
  have document : (Value.dict nestedMapping).Document := by
    refine .dict (by decide) (by simp [nestedMapping]) ?_
    simp only [nestedMapping, List.forall_mem_cons]
    exact ⟨.dict (by decide) (by simp) (by simpa using inner), .text _, .bool true, nofun⟩
  exact ⟨document, (cast_text_loaded document).1 (by decide)⟩

/-- A mapping to an integer with too many digits is not cast to a text, so none can be kept. -/
theorem long_integer_not_cast : ¬∀ entries : List (Key × Value),
    (Value.dict entries).Document →
      ∃ content, (Value.dict entries).cast (.scalar .string) = .ok (.text content) ∧
        load (some content.toUTF8) = .ok (.dict entries) := by
  intro always
  obtain ⟨integer, long⟩ := Whole.exists_unwritable
  have document : (Value.dict [(.text "n", .int integer)]).Document :=
    .dict (List.nodup_singleton _) (by simp) (by simpa using .int integer)
  have unwritable : (.dict [(.text "n", .int integer)] : Value).writable = false := by
    simp [Value.writable, Value.writableEntries, long]
  obtain ⟨content, cast, _⟩ := always _ document
  have failed := Value.castString_error_iff.mpr ⟨unwritable, rfl⟩
  cases cast.symm.trans failed

end RecordCheck.Source
