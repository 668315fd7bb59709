import RecordCheck.Proofs.Cast
import RecordCheck.Proofs.Walk.Locations
import RecordCheck.Proofs.Walk.Rebuilt

/-!
Where what a walk makes of a field stands. Main statement: a field of the record that is there is
found normalised at the same path of the normalised record.
-/

namespace RecordCheck

/-- The way into a value that a step of a path stands for. -/
def Segment.hop : Segment → Hop
  | .name text => .entry (.text text)
  | .index position => .item position.toNat
  | .flag position => .item position.toNat

theorem Value.cast_ne_absent {target : FieldType} {value result : Value} (present : value ≠ .absent)
    (cast : value.cast target = .ok result) : result ≠ .absent := by
  cases target with
  | scalar type =>
      rintro rfl
      have admitted := admits_of_cast cast
      cases type <;> cases admitted
  | object =>
      cases cast
      exact present
  | array =>
      cases cast
      exact present

namespace Walk

variable {setting : Setting}

theorem castLeaf_ne_absent {type : FieldType} {value result : Value} (present : value ≠ .absent)
    (cast : castLeaf setting type value = .ok (some result)) : result ≠ .absent := by
  unfold castLeaf at cast
  split at cast
  · split at cast
    · rename_i castOk
      cases cast
      exact Value.cast_ne_absent present castOk
    · cases cast
    · cases cast
    · cases cast
  · cases cast
    exact present

theorem normalInside_ne_absent {shape : Shape Property} {value : Value}
    (present : value ≠ .absent) : normalInside setting shape value ≠ .absent := by
  rcases shape with type | (_ | members) | (_ | item)
  · exact present
  · exact present
  · exact nofun
  · exact nofun
  · exact nofun

theorem normal_ne_absent (property : Property) {value : Value} (present : value ≠ .absent) :
    normal setting property value ≠ .absent := by
  obtain ⟨shape, rules, fallback, extras⟩ := property
  simp only [normal, present, if_false]
  split
  · rename_i cast
    have there := castLeaf_ne_absent present cast
    split
    · exact normalInside_ne_absent there
    · exact there
  · exact present

theorem Inside.absent {shape : Shape Property} {segment : Segment} {child : Property}
    {element : Value} (inside : Inside shape .absent segment child element) :
    element = .absent := by
  cases inside with
  | field _ => rfl
  | item there => cases there

theorem Reaches.absent {property target : Property} {path : Path} {raw : Value}
    (reached : Reaches property .absent path target raw) : raw = .absent := by
  induction path generalizing property with
  | nil => exact (reaches_nil.mp reached).2
  | cons segment rest ih =>
      obtain ⟨_, child, element, inside, reached⟩ := reaches_cons.mp reached
      obtain rfl := inside.absent
      exact ih reached

theorem lookup_of_fieldValue {name : String} {entries : List (Key × Value)}
    (present : fieldValue name entries ≠ .absent) :
    entries.lookup (.text name) = some (fieldValue name entries) := by
  rw [fieldValue] at present ⊢
  cases found : entries.lookup (.text name) with
  | none => exact absurd (by rw [found, Option.getD_none]) present
  | some own => rw [Option.getD_some]

theorem Inside.enter {shape : Shape Property} {value element : Value} {segment : Segment}
    {child : Property} (inside : Inside shape value segment child element)
    (present : element ≠ .absent) : segment.hop.enter value = some element := by
  cases inside with
  | field declared =>
      cases value with
      | dict entries => exact lookup_of_fieldValue present
      | _ => exact absurd rfl present
  | item there =>
      cases value with
      | list items => exact there
      | tuple items => exact there
      | _ => cases there

theorem Reaches.at? {property target : Property} {value raw : Value} {path : Path}
    (reached : Reaches property value path target raw) (present : raw ≠ .absent) :
    value.at? (path.map Segment.hop) = some raw := by
  induction path generalizing property value with
  | nil => rw [(reaches_nil.mp reached).2, List.map_nil, Value.at?]
  | cons segment rest ih =>
      obtain ⟨_, child, element, inside, reached⟩ := reaches_cons.mp reached
      -- nothing is reached through a missing field
      have there : element ≠ .absent := by
        rintro rfl
        exact present reached.absent
      rw [List.map_cons, Value.at?, inside.enter there, Option.bind_some, ih reached]

theorem at?_normalInside {shape : Shape Property} (names : shape.names.Nodup)
    {value element : Value} {segment : Segment} {child : Property}
    (inside : Inside shape value segment child element) (present : element ≠ .absent)
    (rest : Path) :
    (normalInside setting shape value).at? ((segment :: rest).map Segment.hop) =
      (normal setting child element).at? (rest.map Segment.hop) := by
  cases inside with
  | field declared =>
      have there : normal setting child _ ≠ .absent := normal_ne_absent child present
      rw [List.map_cons, Value.at?, Segment.hop, normalInside, Hop.enter,
        lookup_rebuilt_declared names declared, if_neg there, Option.bind_some]
  | item found =>
      rw [List.map_cons, Value.at?, Segment.hop, normalInside, Hop.enter, Int.toNat_natCast,
        List.getElem?_map, found, Option.map_some, Option.bind_some]

theorem normal_of_inside {property : Property} {value element : Value} {segment : Segment}
    {child : Property} (inside : Inside property.shape value segment child element)
    (present : value ≠ .absent) (opens : Opens property value) :
    normal setting property value = normalInside setting property.shape value := by
  obtain ⟨shape, rules, fallback, extras⟩ := property
  have cast : castLeaf setting shape.type value = .ok (some value) := by
    cases inside with
    | field _ => exact castLeaf_container setting rfl value
    | item _ => exact castLeaf_container setting rfl value
  exact normal_of_admitted ⟨shape, rules, fallback, extras⟩ present cast (opens.2 present)

/-- What a walk makes of a field that is there stands where the field stood. -/
theorem at?_normal {property : Property} (names : property.DistinctNames) {value raw : Value}
    {path : Path} {target : Property} (reached : Reaches property value path target raw)
    (present : raw ≠ .absent) :
    (normal setting property value).at? (path.map Segment.hop) =
      some (normal setting target raw) := by
  induction path generalizing property value with
  | nil =>
      obtain ⟨rfl, rfl⟩ := reaches_nil.mp reached
      rfl
  | cons segment rest ih =>
      obtain ⟨opens, child, element, inside, reached⟩ := reaches_cons.mp reached
      -- nothing is reached through a missing field, so every field on the way is there
      have there : element ≠ .absent := by
        rintro rfl
        exact present reached.absent
      have outer : value ≠ .absent := by
        rintro rfl
        exact there inside.absent
      rw [normal_of_inside inside outer opens, at?_normalInside names.here inside there]
      exact ih (names.inside inside.child_mem) reached

end Walk

end RecordCheck
