import RecordCheck.Proofs.Report.Casting
import RecordCheck.Proofs.Walk.Recast

/-!
One record checked with and without casts, against a schema without rules. Main statement: casting
only takes complaints away, and a leaf that is of its type as it came stands in the data as a value
that is equal to it.
-/

namespace RecordCheck

def Schema.withCast (schema : Schema) (cast : Bool) : Schema := { schema with cast }

namespace Schema

open Walk

variable {schema : Schema} {registry : Registry} {record : Value}

theorem admits_of_passes {entries : List (Key × Value)} {complaints : Complaints}
    (walked : failures ((schema.setting registry (.dict entries)).withCast false) schema.root
      (.dict entries) = .ok complaints)
    {path : Path} {property : Property} {value : Value}
    (location : schema.Location (.dict entries) path property value) (present : value ≠ .absent)
    (passes : path ∉ complaints.map Prod.fst) : property.type.admits value = true := by
  by_contra refused
  have uncast : castLeaf ((schema.setting registry (.dict entries)).withCast false) property.type
      value = .ok (some value) := rfl
  have fails := Fails.type present uncast (Bool.not_eq_true _ ▸ refused)
  have complained := (mem_failures_iff walked path _).mpr ⟨property, value, location, fails⟩
  exact passes (List.mem_map_of_mem complained)

/-- Where both checks give a report, the complaints of the one that casts are some of those of the
other, in their order, and never another one at the same path. A leaf that is there and passes
without casts has a value equal to it at its place in the data of the check that casts. -/
theorem casting_only_helps (schema : Schema) (registry : Registry) (record : Value)
    (off on : Report) (compiled : schema.Compiled) (ruleless : schema.root.Ruleless)
    (plain : schema.root.PlainNames)
    (offReturns : (schema.withCast false).check registry record = .ok off)
    (onReturns : (schema.withCast true).check registry record = .ok on) :
    on.complaints.Sublist off.complaints ∧
    (∀ text complaint other, (text, complaint) ∈ on.complaints →
      (text, other) ∈ off.complaints → complaint = other) ∧
    ∀ path property type value, schema.Location record path property value →
      property.shape = .scalar type → value ≠ .absent →
        path.render ∉ off.complaints.map Prod.fst →
          ∃ result, (Value.dict on.data).at? (path.map Segment.hop) = some result ∧
            result.same value = true := by
  obtain ⟨entries, rfl⟩ := mapping_of_check _ _ offReturns
  have names := compiled.wellFormed.distinctNames
  have rendered (cast : Bool) {found : Complaints}
      (walked : failures ((schema.withCast cast).setting registry (.dict entries)) schema.root
        (.dict entries) = .ok found) : (found.map fun entry => entry.1.render).Nodup :=
    rendered_nodup (show (schema.withCast cast).root.DistinctNames from names) plain walked
  obtain ⟨many, manyWalked, _, rfl⟩ := (check_ok_iff ..).mp offReturns
  obtain ⟨few, fewWalked, _, rfl⟩ := (check_ok_iff ..).mp onReturns
  have offTexts := rendered false manyWalked
  rw [ofFindings_complaints offTexts, ofFindings_complaints (rendered true fewWalked)]
  have relieved : Relieved (schema.setting registry (.dict entries)) schema.root :=
    failures_relieved schema.root ruleless
  have fewer : few.Sublist many := relieved (.dict entries) few many fewWalked manyWalked
  have listed := fewer.map fun entry => (entry.1.render, entry.2)
  refine ⟨listed, ?_, ?_⟩
  · intro text complaint other inOn inOff
    have distinct : ((many.map fun entry => (entry.1.render, entry.2)).map Prod.fst).Nodup := by
      simpa [Function.comp_def] using offTexts
    have same := List.inj_on_of_nodup_map distinct (listed.subset inOn) inOff rfl
    exact congrArg Prod.snd same
  · intro path property type value location leaf present passes
    -- without casts only a leaf of its type passes, and the cast leaves that one equal
    have admitted : property.type.admits value = true := by
      refine admits_of_passes manyWalked location present fun complained => passes ?_
      obtain ⟨entry, member, rfl⟩ := List.mem_map.mp complained
      simpa [Function.comp_def] using List.mem_map_of_mem (f := fun entry => entry.1.render) member
    have same : (normal ((schema.withCast true).setting registry (.dict entries)) property
        value).same value = true := normal_leaf_same leaf rfl admitted
    refine ⟨_, ?_, same⟩
    rw [Report.ofFindings, dict_entriesOf_normal]
    exact at?_normal names location present

def offers : Schema where
  mode := .loose
  cast := false
  members := [("offers", ⟨.array (some ⟨.object (some [
      ("price", ⟨.scalar .number, [], none, []⟩),
      ("pieces", ⟨.scalar .integer, [], none, []⟩),
      ("open", ⟨.scalar .boolean, [], none, []⟩)]), [], none, []⟩), [], none, []⟩)]
  extras := []

theorem offers_everywhere {holds : Property → Prop} (here : holds offers.root)
    (inside : ∀ shape, shape.names ⊆ ["price", "pieces", "open"] → holds ⟨shape, [], none, []⟩) :
    offers.root.Everywhere holds := by
  refine .node here ?_
  intro child inOffers
  rw [List.mem_singleton.mp inOffers]
  refine .node (inside _ (by decide)) ?_
  intro item inItem
  rw [List.mem_singleton.mp inItem]
  refine .node (inside _ (by decide)) ?_
  intro leaf inOffer
  simp only [Shape.children_object_some, List.map_cons, List.map_nil, List.mem_cons,
    List.not_mem_nil, or_false] at inOffer
  rcases inOffer with rfl | rfl | rfl <;> exact .node (inside _ (by decide)) (by simp)

def offered : List (Key × Value) :=
  [(.text "offers", .list [
    .dict [(.text "price", .int 3), (.text "pieces", .float (.ofInt 2)),
      (.text "open", .bool true)],
    .dict [(.text "price", .text "12"), (.text "pieces", .text "few"), (.text "open", .int 1)]])]

def offeredReport : Report where
  data := offered
  complaints := [("offers[1].price", ⟨"VALIDATION_ERROR_NOT_NUMBER", "Value is not a number"⟩),
    ("offers[1].pieces", ⟨"VALIDATION_ERROR_NOT_INTEGER", "Value is not an integer"⟩),
    ("offers[1].open", ⟨"VALIDATION_ERROR_NOT_BOOLEAN", "Value is not a boolean"⟩)]

def recastReport : Report where
  data := [(.text "offers", .list [
    .dict [(.text "price", .int 3), (.text "pieces", .int 2), (.text "open", .bool true)],
    .dict [(.text "price", .float (.ofInt 12)), (.text "pieces", .text "few"),
      (.text "open", .bool true)]])]
  complaints := [("offers[1].pieces",
    ⟨"VALIDATION_ERROR_NOT_INTEGER", "Value is not an integer"⟩)]

theorem offers_recast :
    offers.Compiled ∧ offers.root.Ruleless ∧ offers.root.PlainNames ∧
      (offers.withCast false).check .empty (.dict offered) = .ok offeredReport ∧
      (offers.withCast true).check .empty (.dict offered) = .ok recastReport ∧
      recastReport.complaints.Sublist offeredReport.complaints ∧
      ∃ result, (Value.dict recastReport.data).at?
          [.entry (.text "offers"), .item 0, .entry (.text "pieces")] = some result ∧
        result.same (.float (.ofInt 2)) = true := by
  have compiled : offers.Compiled := ⟨_, Draft.authored_embed offers.render, by rfl⟩
  have ruleless : offers.root.Ruleless := offers_everywhere rfl fun _ _ => rfl
  have plain : offers.root.PlainNames := by
    refine offers_everywhere (by decide) fun shape names name member => ?_
    have all : ∀ name ∈ ["price", "pieces", "open"], PlainName name := by decide
    exact all name (names member)
  have plainly : (offers.withCast false).check .empty (.dict offered) = .ok offeredReport := by
    decide +kernel
  have recast : (offers.withCast true).check .empty (.dict offered) = .ok recastReport := by
    decide +kernel
  have helped := casting_only_helps offers .empty _ _ _ compiled ruleless plain plainly recast
  refine ⟨compiled, ruleless, plain, plainly, recast, helped.1, ?_⟩
  have location : offers.Location (.dict offered)
      [.name "offers", .index (0 : Nat), .name "pieces"] ⟨.scalar .integer, [], none, []⟩
      (.float (.ofInt 2)) :=
    .field ⟨nofun, fun _ => rfl⟩ rfl List.mem_cons_self <|
      .item ⟨nofun, fun _ => rfl⟩ rfl rfl <|
        .field ⟨nofun, fun _ => rfl⟩ rfl (List.mem_cons_of_mem _ List.mem_cons_self) .here
  exact helped.2.2 _ _ _ _ location rfl nofun (by decide)

end Schema

end RecordCheck
