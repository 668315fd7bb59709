import Mathlib.Data.List.Nodup
import RecordCheck.Proofs.Outcome
import RecordCheck.Proofs.Walk.Passes

/-!
Where a walk comes to and what it complains about there. `Reaches` says which fields lie inside a
field, `Fails` says what is wrong with one of them, and `failures_iff` shows that the complaints of
a walk are exactly the failing locations, each with its one complaint.
-/

namespace RecordCheck.Walk

/-- A directive has something against a value: its rule is unknown or says no. -/
inductive Rejects (setting : Setting) (value : Value) (directive : Directive) : Complaint → Prop
  | unknown : setting.registry.find? directive.name = none →
      Rejects setting value directive
        ⟨"VALIDATION_UNKNOWN_RULE", "Unknown validation rule '" ++ directive.name ++ "'"⟩
  | refused {rule text} : setting.registry.find? directive.name = some rule →
      rule.predicate value directive.arguments setting.record = .ok false →
      rule.message directive.arguments = .ok text →
      Rejects setting value directive ⟨rule.errorId, text⟩

/-- A directive has something against a missing field: its rule checks those and says no to null. -/
inductive RejectsMissing (setting : Setting) (directive : Directive) : Complaint → Prop
  | refused {rule text} : setting.registry.find? directive.name = some rule →
      rule.checkMissing = true →
      rule.predicate .null directive.arguments setting.record = .ok false →
      rule.message directive.arguments = .ok text →
      RejectsMissing setting directive ⟨rule.errorId, text⟩

/-- The complaint of the first directive in a list that has one. -/
inductive FirstComplaint (rejects : Directive → Complaint → Prop) :
    List Directive → Complaint → Prop
  | here {directive rest complaint} : rejects directive complaint →
      FirstComplaint rejects (directive :: rest) complaint
  | later {directive rest complaint} : (∀ other, ¬rejects directive other) →
      FirstComplaint rejects rest complaint → FirstComplaint rejects (directive :: rest) complaint

/-- The complaint about a field with a value; a missing field has the absent marker for it. -/
inductive Fails (setting : Setting) (property : Property) (value : Value) : Complaint → Prop
  | cast : value ≠ .absent → castLeaf setting property.type value = .ok none →
      Fails setting property value ⟨property.type.errorId, property.type.errorMessage⟩
  | type {result} : value ≠ .absent → castLeaf setting property.type value = .ok (some result) →
      property.type.admits result = false →
      Fails setting property value ⟨property.type.errorId, property.type.errorMessage⟩
  | rule {result complaint} : value ≠ .absent →
      castLeaf setting property.type value = .ok (some result) →
      property.type.admits result = true →
      FirstComplaint (Rejects setting (normal setting property value)) property.rules complaint →
      Fails setting property value complaint
  | missing {complaint} : value = .absent → property.fallback = none →
      FirstComplaint (RejectsMissing setting) property.rules complaint →
      Fails setting property value complaint

/-- What is declared inside a field is looked at: a present value is of its type, and no default
stands in for a missing one. -/
def Opens (property : Property) (value : Value) : Prop :=
  (value = .absent → property.fallback = none) ∧
    (value ≠ .absent → property.type.admits value = true)

inductive Reaches : Property → Value → Path → Property → Value → Prop
  | here {property value} : Reaches property value [] property value
  | field {property value members name child path target raw} : Opens property value →
      property.shape = .object (some members) → (name, child) ∈ members →
      Reaches child (fieldValue name (entriesOf value)) path target raw →
      Reaches property value (.name name :: path) target raw
  | item {property value child position element path target raw} : Opens property value →
      property.shape = .array (some child) → (itemsOf value)[position]? = some element →
      Reaches child element path target raw →
      Reaches property value (.index (position : Nat) :: path) target raw

inductive Inside : Shape Property → Value → Segment → Property → Value → Prop
  | field {members value name child} : (name, child) ∈ members →
      Inside (.object (some members)) value (.name name) child (fieldValue name (entriesOf value))
  | item {child value position element} : (itemsOf value)[position]? = some element →
      Inside (.array (some child)) value (.index (position : Nat)) child element

theorem Inside.child_mem {shape : Shape Property} {value element : Value} {segment : Segment}
    {child : Property} (inside : Inside shape value segment child element) :
    child ∈ shape.children := by
  cases inside with
  | field declared => exact List.mem_map_of_mem (f := Prod.snd) declared
  | item _ => exact List.mem_singleton_self child

theorem reaches_nil {property target : Property} {value raw : Value} :
    Reaches property value [] target raw ↔ target = property ∧ raw = value := by
  constructor
  · intro reached
    cases reached
    exact ⟨rfl, rfl⟩
  · rintro ⟨rfl, rfl⟩
    exact .here

theorem reaches_cons {property target : Property} {value raw : Value} {segment : Segment}
    {path : Path} : Reaches property value (segment :: path) target raw ↔ Opens property value ∧
      ∃ child element, Inside property.shape value segment child element ∧
        Reaches child element path target raw := by
  constructor
  · intro reached
    cases reached with
    | field opens declares declared reached =>
        exact ⟨opens, _, _, declares ▸ .field declared, reached⟩
    | item opens declares there reached => exact ⟨opens, _, _, declares ▸ .item there, reached⟩
  · rintro ⟨opens, child, element, inside, reached⟩
    obtain ⟨shape, rules, fallback, extras⟩ := property
    cases inside with
    | field declared => exact .field opens rfl declared reached
    | item there => exact .item opens rfl there reached

theorem evaluate_ok {rule : Rule} {value : Value} {arguments : List Argument} {record : Value}
    {outcome : Outcome} (evaluated : rule.evaluate value arguments record = .ok outcome) :
    (outcome = .valid ∧ rule.predicate value arguments record = .ok true) ∨
      ∃ text, outcome = .invalid rule.errorId text ∧
        rule.predicate value arguments record = .ok false ∧ rule.message arguments = .ok text := by
  simp only [Rule.evaluate, bind_ok_iff] at evaluated
  obtain ⟨holds, asked, evaluated⟩ := evaluated
  cases holds with
  | true =>
      cases evaluated
      exact Or.inl ⟨rfl, asked⟩
  | false =>
      obtain ⟨text, told, rfl⟩ := map_ok_iff.mp evaluated
      exact Or.inr ⟨text, rfl, asked, told⟩

theorem evaluate_decides {rejects : Complaint → Prop} {rule : Rule} {value record : Value}
    {arguments : List Argument} {outcome : Outcome}
    (evaluated : rule.evaluate value arguments record = .ok outcome)
    (refuses : ∀ complaint, rejects complaint ↔ rule.predicate value arguments record = .ok false ∧
      ∃ text, rule.message arguments = .ok text ∧ complaint = ⟨rule.errorId, text⟩) :
    (outcome = .valid ∧ ∀ complaint, ¬rejects complaint) ∨
      ∃ text, outcome = .invalid rule.errorId text ∧
        ∀ complaint, rejects complaint ↔ complaint = ⟨rule.errorId, text⟩ := by
  rcases evaluate_ok evaluated with ⟨rfl, holds⟩ | ⟨text, rfl, refused, told⟩
  · refine Or.inl ⟨rfl, fun complaint rejected => ?_⟩
    obtain ⟨refused, _⟩ := (refuses complaint).mp rejected
    rw [holds] at refused
    cases refused
  · refine Or.inr ⟨text, rfl, fun complaint => ?_⟩
    rw [refuses, refused, told]
    simp

theorem firstComplaint_skip {rejects : Directive → Complaint → Prop} {directive : Directive}
    (silent : ∀ complaint, ¬rejects directive complaint) (rest : List Directive)
    (complaint : Complaint) :
    FirstComplaint rejects (directive :: rest) complaint ↔ FirstComplaint rejects rest complaint := by
  constructor
  · intro first
    cases first with
    | here rejected => exact absurd rejected (silent _)
    | later _ found => exact found
  · exact FirstComplaint.later silent

theorem firstComplaint_take {rejects : Directive → Complaint → Prop} {directive : Directive}
    {complaint : Complaint} (only : ∀ other, rejects directive other ↔ other = complaint)
    (rest : List Directive) (other : Complaint) :
    FirstComplaint rejects (directive :: rest) other ↔ other = complaint := by
  constructor
  · intro first
    cases first with
    | here rejected => exact (only _).mp rejected
    | later silent _ => exact absurd ((only complaint).mpr rfl) (silent complaint)
  · intro same
    exact FirstComplaint.here ((only other).mpr same)

/-- The complaints about a field itself: at most one, and if so the one that is in order. -/
def Own (own : Complaints) (wrong : Complaint → Prop) : Prop :=
  (own = [] ∧ ∀ complaint, ¬wrong complaint) ∨
    ∃ complaint, own = [([], complaint)] ∧ ∀ other, wrong other ↔ other = complaint

namespace Own

variable {own : Complaints} {wrong other : Complaint → Prop}

theorem congr (single : Own own wrong) (same : ∀ complaint, other complaint ↔ wrong complaint) :
    Own own other := by
  rcases single with ⟨empty, none⟩ | ⟨complaint, one, only⟩
  · exact Or.inl ⟨empty, fun complaint wrong => none complaint ((same complaint).mp wrong)⟩
  · exact Or.inr ⟨complaint, one, fun next => (same next).trans (only next)⟩

theorem mem_iff (single : Own own wrong) (path : Path) (complaint : Complaint) :
    (path, complaint) ∈ own ↔ path = [] ∧ wrong complaint := by
  rcases single with ⟨empty, none⟩ | ⟨first, one, only⟩
  · simp [empty, none]
  · simp [one, only]

theorem nodup (single : Own own wrong) : (own.map Prod.fst).Nodup := by
  rcases single with ⟨empty, _⟩ | ⟨first, one, _⟩
  · simp [empty]
  · simp [one]

end Own

theorem rejects_of_unknown {setting : Setting} {directive : Directive} (value : Value)
    (unknown : setting.registry.find? directive.name = none) (complaint : Complaint) :
    Rejects setting value directive complaint ↔ complaint =
      ⟨"VALIDATION_UNKNOWN_RULE", "Unknown validation rule '" ++ directive.name ++ "'"⟩ := by
  constructor
  · intro rejected
    cases rejected with
    | unknown _ => rfl
    | refused known _ _ =>
        rw [unknown] at known
        cases known
  · rintro rfl
    exact Rejects.unknown unknown

theorem rejects_of_known {setting : Setting} {directive : Directive} (value : Value) {rule : Rule}
    (known : setting.registry.find? directive.name = some rule) (complaint : Complaint) :
    Rejects setting value directive complaint ↔
      rule.predicate value directive.arguments setting.record = .ok false ∧
        ∃ text, rule.message directive.arguments = .ok text ∧
          complaint = ⟨rule.errorId, text⟩ := by
  constructor
  · intro rejected
    cases rejected with
    | unknown unknown =>
        rw [known] at unknown
        cases unknown
    | @refused other text found refused told =>
        rw [known] at found
        cases found
        exact ⟨refused, text, told, rfl⟩
  · rintro ⟨refused, text, told, rfl⟩
    exact Rejects.refused known refused told

theorem rejectsMissing_iff {setting : Setting} {directive : Directive} {rule : Rule}
    (known : setting.registry.find? directive.name = some rule) (complaint : Complaint) :
    RejectsMissing setting directive complaint ↔ rule.checkMissing = true ∧
      rule.predicate .null directive.arguments setting.record = .ok false ∧
        ∃ text, rule.message directive.arguments = .ok text ∧
          complaint = ⟨rule.errorId, text⟩ := by
  constructor
  · intro rejected
    cases rejected with
    | @refused other text found checks refused told =>
        rw [known] at found
        cases found
        exact ⟨checks, refused, text, told, rfl⟩
  · rintro ⟨checks, refused, text, told, rfl⟩
    exact RejectsMissing.refused known checks refused told

theorem applyRules_own {setting : Setting} {value : Value} {rules : List Directive}
    {found : Findings} (returned : applyRules setting value [] rules = .ok found) :
    Own found.complaints (FirstComplaint (Rejects setting value) rules) := by
  induction rules with
  | nil =>
      cases returned
      exact Or.inl ⟨rfl, fun complaint first => nomatch first⟩
  | cons directive rest ih =>
      cases known : setting.registry.find? directive.name with
      | none =>
          simp only [applyRules, Registry.contains, known] at returned
          cases returned
          exact Or.inr ⟨_, rfl, firstComplaint_take (rejects_of_unknown value known) rest⟩
      | some rule =>
          simp only [applyRules, Registry.contains, known, Registry.evaluate, Registry.get,
            Except.bind, Option.isSome_some, Bool.not_true, Bool.false_eq_true, if_false]
            at returned
          cases asked : rule.evaluate value directive.arguments setting.record with
          | error error => simp [asked] at returned
          | ok outcome =>
              rw [asked] at returned
              rcases evaluate_decides asked (rejects_of_known value known) with
                ⟨rfl, silent⟩ | ⟨text, rfl, only⟩
              · exact (ih returned).congr (firstComplaint_skip silent rest)
              · cases returned
                exact Or.inr ⟨_, rfl, firstComplaint_take only rest⟩

theorem applyMissingRules_own {setting : Setting} {rules : List Directive} {found : Findings}
    (returned : applyMissingRules setting [] rules = .ok found) :
    Own found.complaints (FirstComplaint (RejectsMissing setting) rules) := by
  induction rules with
  | nil =>
      cases returned
      exact Or.inl ⟨rfl, fun complaint first => nomatch first⟩
  | cons directive rest ih =>
      cases known : setting.registry.find? directive.name with
      | none =>
          simp only [applyMissingRules, known] at returned
          refine (ih returned).congr (firstComplaint_skip ?_ rest)
          rintro complaint ⟨found, _, _, _⟩
          rw [known] at found
          cases found
      | some rule =>
          simp only [applyMissingRules, known] at returned
          have rejects := rejectsMissing_iff known
          -- only a rule that checks missing fields is asked, and only it has a complaint to make
          by_cases checks : rule.checkMissing = true
          · simp only [checks, Bool.not_true, Bool.false_eq_true, if_false] at returned
            simp only [checks, true_and] at rejects
            cases asked : rule.evaluate .null directive.arguments setting.record with
            | error error => simp [asked] at returned
            | ok outcome =>
                rw [asked] at returned
                rcases evaluate_decides asked rejects with ⟨rfl, silent⟩ | ⟨text, rfl, only⟩
                · exact (ih returned).congr (firstComplaint_skip silent rest)
                · cases returned
                  exact Or.inr ⟨_, rfl, firstComplaint_take only rest⟩
          · have silent : ∀ complaint, ¬RejectsMissing setting directive complaint := by
              intro complaint rejected
              rw [rejects] at rejected
              exact checks rejected.1
            simp only [checks, Bool.not_false, if_true] at returned
            exact (ih returned).congr (firstComplaint_skip silent rest)

theorem castLeaf_ok {setting : Setting} {shape : Shape Property} {value : Value}
    {outcome : Option Value} (cast : castLeaf setting shape.type value = .ok outcome) :
    (∃ type, shape = .scalar type) ∨ outcome = some value := by
  cases shape with
  | scalar type => exact Or.inl ⟨type, rfl⟩
  | object members =>
      rw [castLeaf_container setting rfl] at cast
      cases cast
      exact Or.inr rfl
  | array item =>
      rw [castLeaf_container setting rfl] at cast
      cases cast
      exact Or.inr rfl

theorem normal_of_admitted {setting : Setting} (property : Property) {value result : Value}
    (present : value ≠ .absent) (cast : castLeaf setting property.type value = .ok (some result))
    (admitted : property.type.admits result = true) :
    normal setting property value = normalInside setting property.shape result := by
  obtain ⟨shape, rules, fallback, extras⟩ := property
  simp only [Property.type] at cast admitted
  simp [normal, present, cast, admitted]

section Fails

variable {setting : Setting} {property : Property} {value : Value}

theorem fails_of_default {default : Value} (absent : value = .absent)
    (filled : property.fallback = some default) (complaint : Complaint) :
    ¬Fails setting property value complaint := by
  rintro (⟨present, _⟩ | ⟨present, _, _⟩ | ⟨present, _, _, _⟩ | ⟨_, unfilled, _⟩)
  · exact present absent
  · exact present absent
  · exact present absent
  · rw [filled] at unfilled
    cases unfilled

theorem fails_of_missing (absent : value = .absent) (unfilled : property.fallback = none)
    (complaint : Complaint) : Fails setting property value complaint ↔
      FirstComplaint (RejectsMissing setting) property.rules complaint := by
  constructor
  · rintro (⟨present, _⟩ | ⟨present, _, _⟩ | ⟨present, _, _, _⟩ | ⟨_, _, first⟩)
    · exact absurd absent present
    · exact absurd absent present
    · exact absurd absent present
    · exact first
  · exact Fails.missing absent unfilled

theorem fails_of_refusal (present : value ≠ .absent)
    (refused : castLeaf setting property.type value = .ok none) (complaint : Complaint) :
    Fails setting property value complaint ↔
      complaint = ⟨property.type.errorId, property.type.errorMessage⟩ := by
  constructor
  · rintro (_ | ⟨_, _, _⟩ | ⟨_, cast, _, _⟩ | ⟨absent, _, _⟩)
    · rfl
    · rfl
    · rw [refused] at cast
      cases cast
    · exact absurd absent present
  · rintro rfl
    exact Fails.cast present refused

theorem fails_of_wrong_type {result : Value} (present : value ≠ .absent)
    (cast : castLeaf setting property.type value = .ok (some result))
    (unfit : property.type.admits result = false) (complaint : Complaint) :
    Fails setting property value complaint ↔
      complaint = ⟨property.type.errorId, property.type.errorMessage⟩ := by
  constructor
  · rintro (_ | ⟨_, _, _⟩ | ⟨_, other, admitted, _⟩ | ⟨absent, _, _⟩)
    · rfl
    · rfl
    · rw [cast] at other
      cases other
      rw [unfit] at admitted
      cases admitted
    · exact absurd absent present
  · rintro rfl
    exact Fails.type present cast unfit

theorem fails_of_admitted {result : Value} (present : value ≠ .absent)
    (cast : castLeaf setting property.type value = .ok (some result))
    (admitted : property.type.admits result = true) (complaint : Complaint) :
    Fails setting property value complaint ↔
      FirstComplaint (Rejects setting (normal setting property value)) property.rules
        complaint := by
  constructor
  · rintro (⟨_, refused⟩ | ⟨_, other, unfit⟩ | ⟨_, _, _, first⟩ | ⟨absent, _, _⟩)
    · rw [cast] at refused
      cases refused
    · rw [cast] at other
      cases other
      rw [admitted] at unfit
      cases unfit
    · exact first
    · exact absurd absent present
  · exact Fails.rule present cast admitted

end Fails

/-- The complaints about a field are those about the fields inside, if it opens, and then its own. -/
def Splits (setting : Setting) (property : Property) (value : Value) (complaints : Complaints) :
    Prop :=
  ∃ inner own, complaints = inner ++ own ∧
    (Opens property value → innerFailures setting property.shape value = .ok inner) ∧
    (¬Opens property value → inner = []) ∧ Own own (Fails setting property value)

theorem splits_absent {setting : Setting} {property : Property} {complaints : Complaints}
    (returned : failures setting property .absent = .ok complaints) :
    Splits setting property .absent complaints := by
  obtain ⟨shape, rules, fallback, extras⟩ := property
  cases fallback with
  | some default =>
      simp only [failures, if_true] at returned
      cases returned
      refine ⟨[], [], rfl, ?_, fun _ => rfl, Or.inl ⟨rfl, fails_of_default rfl rfl⟩⟩
      intro opens
      cases opens.1 rfl
  | none =>
      simp only [failures, if_true, bind_ok_iff, map_ok_iff] at returned
      obtain ⟨inner, innerOk, found, rulesOk, rfl⟩ := returned
      refine ⟨inner, found.complaints, rfl, fun _ => innerOk, ?_, ?_⟩
      · intro closed
        exact absurd ⟨fun _ => rfl, fun present => absurd rfl present⟩ closed
      · exact (applyMissingRules_own rulesOk).congr (fails_of_missing rfl rfl)

theorem splits_admitted {setting : Setting} {property : Property} {value result : Value}
    {complaints : Complaints} (present : value ≠ .absent)
    (cast : castLeaf setting property.type value = .ok (some result))
    (admitted : property.type.admits result = true)
    (returned : ((innerFailures setting property.shape result).bind fun found =>
      (applyRules setting (normalInside setting property.shape result) [] property.rules).map
        fun later => found ++ later.complaints) = .ok complaints) :
    Splits setting property value complaints := by
  simp only [bind_ok_iff, map_ok_iff] at returned
  obtain ⟨inner, innerOk, found, rulesOk, rfl⟩ := returned
  have fails := fails_of_admitted present cast admitted
  rw [normal_of_admitted property present cast admitted] at fails
  have own := (applyRules_own rulesOk).congr fails
  obtain ⟨shape, rules, fallback, extras⟩ := property
  rcases castLeaf_ok cast with ⟨type, rfl⟩ | same
  · cases innerOk
    exact ⟨[], found.complaints, rfl, fun _ => rfl, fun _ => rfl, own⟩
  · cases same
    refine ⟨inner, found.complaints, rfl, fun _ => innerOk, fun closed => ?_, own⟩
    exact absurd ⟨fun absent => absurd absent present, fun _ => admitted⟩ closed

theorem splits_wrong_type {setting : Setting} {property : Property} {value : Value}
    {complaint : Complaint} (shut : Opens property value → ∃ type, property.shape = .scalar type)
    (only : ∀ other, Fails setting property value other ↔ other = complaint) :
    Splits setting property value [([], complaint)] := by
  refine ⟨[], _, rfl, fun opens => ?_, fun _ => rfl, Or.inr ⟨complaint, rfl, only⟩⟩
  obtain ⟨type, scalar⟩ := shut opens
  rw [scalar]
  rfl

theorem failures_split {setting : Setting} {property : Property} {value : Value}
    {complaints : Complaints} (returned : failures setting property value = .ok complaints) :
    Splits setting property value complaints := by
  by_cases absent : value = .absent
  · subst absent
    exact splits_absent returned
  · obtain ⟨shape, rules, fallback, extras⟩ := property
    simp only [failures, absent, if_false, bind_ok_iff] at returned
    obtain ⟨outcome, cast, returned⟩ := returned
    cases outcome with
    | none =>
        cases returned
        refine splits_wrong_type (fun _ => ?_) (fails_of_refusal absent cast)
        rcases castLeaf_ok cast with scalar | impossible
        · exact scalar
        · cases impossible
    | some result =>
        by_cases admitted : shape.type.admits result = true
        · simp only [admitted, Bool.not_true, Bool.false_eq_true, if_false] at returned
          exact splits_admitted absent cast admitted returned
        · have unfit : shape.type.admits result = false := by simpa using admitted
          simp only [unfit, Bool.not_false, if_true] at returned
          cases returned
          refine splits_wrong_type (fun opens => ?_) (fails_of_wrong_type absent cast unfit)
          rcases castLeaf_ok cast with scalar | same
          · exact scalar
          · cases same
            exact absurd (opens.2 absent) admitted

theorem mem_below {segment : Segment} {found : Complaints} {path : Path} {complaint : Complaint} :
    (path, complaint) ∈ below segment found ↔
      ∃ rest, path = segment :: rest ∧ (rest, complaint) ∈ found := by
  simp only [below, List.mem_map, Prod.mk.injEq]
  constructor
  · rintro ⟨⟨rest, other⟩, member, rfl, rfl⟩
    exact ⟨rest, rfl, member⟩
  · rintro ⟨rest, rfl, member⟩
    exact ⟨(rest, complaint), member, rfl, rfl⟩

theorem memberFailures_cons {setting : Setting} {name : String} {child : Property}
    {rest : List (String × Property)} {entries : List (Key × Value)} {found : Complaints}
    (returned : memberFailures setting ((name, child) :: rest) entries = .ok found) :
    ∃ first later, failures setting child (fieldValue name entries) = .ok first ∧
      memberFailures setting rest entries = .ok later ∧
      found = below (.name name) first ++ later := by
  simp only [memberFailures, bind_ok_iff, map_ok_iff] at returned
  obtain ⟨first, firstOk, later, laterOk, rfl⟩ := returned
  exact ⟨first, later, firstOk, laterOk, rfl⟩

theorem itemFailures_cons {failuresOf : Value → Except WalkError Complaints} {position : Nat}
    {item : Value} {rest : List Value} {found : Complaints}
    (returned : itemFailures failuresOf position (item :: rest) = .ok found) :
    ∃ first later, failuresOf item = .ok first ∧
      itemFailures failuresOf (position + 1) rest = .ok later ∧
      found = below (.index position) first ++ later := by
  simp only [itemFailures, bind_ok_iff, map_ok_iff] at returned
  obtain ⟨first, firstOk, later, laterOk, rfl⟩ := returned
  exact ⟨first, later, firstOk, laterOk, rfl⟩

theorem mem_memberFailures {setting : Setting} {members : List (String × Property)}
    {entries : List (Key × Value)} {found : Complaints}
    (returned : memberFailures setting members entries = .ok found) (path : Path)
    (complaint : Complaint) :
    (path, complaint) ∈ found ↔ ∃ name child rest inner, (name, child) ∈ members ∧
      path = .name name :: rest ∧ failures setting child (fieldValue name entries) = .ok inner ∧
      (rest, complaint) ∈ inner := by
  induction members generalizing found with
  | nil =>
      cases returned
      simp
  | cons first rest ih =>
      obtain ⟨name, child⟩ := first
      obtain ⟨own, later, ownOk, laterOk, rfl⟩ := memberFailures_cons returned
      rw [List.mem_append, ih laterOk, mem_below]
      constructor
      · rintro (⟨tail, rfl, member⟩ | ⟨other, property, tail, inner, declared, rest⟩)
        · exact ⟨name, child, tail, own, List.mem_cons_self, rfl, ownOk, member⟩
        · exact ⟨other, property, tail, inner, List.mem_cons_of_mem _ declared, rest⟩
      · rintro ⟨other, property, tail, inner, declared, rfl, innerOk, member⟩
        rcases List.mem_cons.mp declared with same | declared
        · cases same
          rw [ownOk] at innerOk
          cases innerOk
          exact Or.inl ⟨tail, rfl, member⟩
        · exact Or.inr ⟨other, property, tail, inner, declared, rfl, innerOk, member⟩

theorem memberFailures_each {setting : Setting} {members : List (String × Property)}
    {entries : List (Key × Value)} {found : Complaints}
    (returned : memberFailures setting members entries = .ok found) {name : String}
    {child : Property} (declared : (name, child) ∈ members) :
    ∃ inner, failures setting child (fieldValue name entries) = .ok inner := by
  induction members generalizing found with
  | nil => cases declared
  | cons first rest ih =>
      obtain ⟨other, property⟩ := first
      obtain ⟨own, later, ownOk, laterOk, _⟩ := memberFailures_cons returned
      rcases List.mem_cons.mp declared with same | declared
      · cases same
        exact ⟨own, ownOk⟩
      · exact ih laterOk declared

theorem mem_itemFailures {failuresOf : Value → Except WalkError Complaints} {position : Nat}
    {items : List Value} {found : Complaints}
    (returned : itemFailures failuresOf position items = .ok found) (path : Path)
    (complaint : Complaint) :
    (path, complaint) ∈ found ↔ ∃ offset element rest inner, items[offset]? = some element ∧
      path = .index (position + offset : Nat) :: rest ∧ failuresOf element = .ok inner ∧
      (rest, complaint) ∈ inner := by
  induction items generalizing position found with
  | nil =>
      cases returned
      simp
  | cons item rest ih =>
      obtain ⟨own, later, ownOk, laterOk, rfl⟩ := itemFailures_cons returned
      rw [List.mem_append, ih laterOk, mem_below]
      constructor
      · rintro (⟨tail, rfl, member⟩ | ⟨offset, element, tail, inner, there, rfl, rest⟩)
        · exact ⟨0, item, tail, own, rfl, rfl, ownOk, member⟩
        · refine ⟨offset + 1, element, tail, inner, by simpa using there, ?_, rest⟩
          rw [Nat.add_assoc, Nat.add_comm 1]
      · rintro ⟨offset, element, tail, inner, there, rfl, innerOk, member⟩
        cases offset with
        | zero =>
            cases there
            rw [ownOk] at innerOk
            cases innerOk
            exact Or.inl ⟨tail, rfl, member⟩
        | succ offset =>
            refine Or.inr ⟨offset, element, tail, inner, by simpa using there, ?_, innerOk, member⟩
            rw [Nat.add_assoc, Nat.add_comm 1]

theorem itemFailures_each {failuresOf : Value → Except WalkError Complaints} {position : Nat}
    {items : List Value} {found : Complaints}
    (returned : itemFailures failuresOf position items = .ok found) {element : Value}
    (member : element ∈ items) : ∃ inner, failuresOf element = .ok inner := by
  induction items generalizing position found with
  | nil => cases member
  | cons item rest ih =>
      obtain ⟨own, later, ownOk, laterOk, _⟩ := itemFailures_cons returned
      rcases List.mem_cons.mp member with same | later
      · exact ⟨own, same ▸ ownOk⟩
      · exact ih laterOk later

theorem mem_innerFailures {setting : Setting} {shape : Shape Property} {value : Value}
    {found : Complaints} (returned : innerFailures setting shape value = .ok found) (path : Path)
    (complaint : Complaint) :
    (path, complaint) ∈ found ↔ ∃ segment child element rest inner,
      Inside shape value segment child element ∧ path = segment :: rest ∧
        failures setting child element = .ok inner ∧ (rest, complaint) ∈ inner := by
  constructor
  · intro member
    rcases shape with type | (_ | members) | (_ | item)
    · cases returned
      cases member
    · cases returned
      cases member
    · obtain ⟨name, child, rest, inner, declared, found⟩ :=
        (mem_memberFailures (innerFailures_object_ok_iff.mp returned).1 path complaint).mp member
      exact ⟨_, child, _, rest, inner, .field declared, found⟩
    · cases returned
      cases member
    · obtain ⟨position, element, rest, inner, there, rfl, found⟩ :=
        (mem_itemFailures returned path complaint).mp member
      exact ⟨_, item, element, rest, inner, .item there, by rw [Nat.zero_add], found⟩
  · rintro ⟨segment, child, element, rest, inner, inside, rfl, found⟩
    cases inside with
    | field declared =>
        exact (mem_memberFailures (innerFailures_object_ok_iff.mp returned).1 _ complaint).mpr
          ⟨_, child, rest, inner, declared, rfl, found⟩
    | item there =>
        exact (mem_itemFailures returned _ complaint).mpr
          ⟨_, element, rest, inner, there, by rw [Nat.zero_add], found⟩

theorem innerFailures_each {setting : Setting} {shape : Shape Property} {value : Value}
    {found : Complaints} (returned : innerFailures setting shape value = .ok found)
    {segment : Segment} {child : Property} {element : Value}
    (inside : Inside shape value segment child element) :
    ∃ inner, failures setting child element = .ok inner := by
  cases inside with
  | field declared =>
      exact memberFailures_each (innerFailures_object_ok_iff.mp returned).1 declared
  | item there => exact itemFailures_each returned (List.mem_of_getElem? there)

/-- The complaints of a walk are exactly the failing locations. -/
theorem mem_failures_iff {setting : Setting} {property : Property} {value : Value}
    {complaints : Complaints} (returned : failures setting property value = .ok complaints)
    (path : Path) (complaint : Complaint) :
    (path, complaint) ∈ complaints ↔ ∃ target raw, Reaches property value path target raw ∧
      Fails setting target raw complaint := by
  induction property generalizing value complaints path with
  | node shape rules fallback extras ih =>
      obtain ⟨inner, own, rfl, opened, closed, single⟩ := failures_split returned
      rw [List.mem_append, single.mem_iff]
      constructor
      · rintro (member | ⟨rfl, fails⟩)
        · have opens : Opens ⟨shape, rules, fallback, extras⟩ value := by
            by_contra shut
            simp [closed shut] at member
          obtain ⟨segment, child, element, rest, found, inside, rfl, foundOk, member⟩ :=
            (mem_innerFailures (opened opens) path complaint).mp member
          obtain ⟨target, raw, reached, fails⟩ := (ih child inside.child_mem foundOk rest).mp member
          exact ⟨target, raw, reaches_cons.mpr ⟨opens, child, element, inside, reached⟩, fails⟩
        · exact ⟨_, value, .here, fails⟩
      · rintro ⟨target, raw, reached, fails⟩
        cases path with
        | nil =>
            obtain ⟨rfl, rfl⟩ := reaches_nil.mp reached
            exact Or.inr ⟨rfl, fails⟩
        | cons segment rest =>
            obtain ⟨opens, child, element, inside, reached⟩ := reaches_cons.mp reached
            obtain ⟨found, foundOk⟩ := innerFailures_each (opened opens) inside
            have member := (ih child inside.child_mem foundOk rest).mpr
              ⟨target, raw, reached, fails⟩
            exact Or.inl ((mem_innerFailures (opened opens) _ complaint).mpr
              ⟨segment, child, element, rest, found, inside, rfl, foundOk, member⟩)

theorem below_nodup {segment : Segment} {found : Complaints}
    (distinct : (found.map Prod.fst).Nodup) : ((below segment found).map Prod.fst).Nodup := by
  have same : (below segment found).map Prod.fst = (found.map Prod.fst).map (segment :: ·) := by
    simp [below]
  rw [same]
  exact distinct.map (List.cons_injective)

theorem append_nodup {first second : Complaints} (firstDistinct : (first.map Prod.fst).Nodup)
    (secondDistinct : (second.map Prod.fst).Nodup)
    (apart : ∀ path left right, (path, left) ∈ first → (path, right) ∉ second) :
    ((first ++ second).map Prod.fst).Nodup := by
  rw [List.map_append]
  refine List.Nodup.append firstDistinct secondDistinct ?_
  intro path inFirst inSecond
  obtain ⟨⟨_, left⟩, leftMember, rfl⟩ := List.mem_map.mp inFirst
  obtain ⟨⟨_, right⟩, rightMember, rfl⟩ := List.mem_map.mp inSecond
  exact apart _ left right leftMember rightMember

theorem memberFailures_nodup {setting : Setting} {members : List (String × Property)}
    {entries : List (Key × Value)} {found : Complaints}
    (returned : memberFailures setting members entries = .ok found)
    (distinct : (members.map Prod.fst).Nodup)
    (each : ∀ name child, (name, child) ∈ members → ∀ inner,
      failures setting child (fieldValue name entries) = .ok inner →
        (inner.map Prod.fst).Nodup) : (found.map Prod.fst).Nodup := by
  induction members generalizing found with
  | nil =>
      cases returned
      exact List.nodup_nil
  | cons first rest ih =>
      obtain ⟨name, child⟩ := first
      obtain ⟨own, later, ownOk, laterOk, rfl⟩ := memberFailures_cons returned
      obtain ⟨fresh, distinct⟩ := List.nodup_cons.mp distinct
      apply append_nodup (below_nodup (each name child List.mem_cons_self own ownOk))
      · exact ih laterOk distinct fun other property member =>
          each other property (List.mem_cons_of_mem _ member)
      · intro path left right inOwn inLater
        obtain ⟨tail, rfl, _⟩ := mem_below.mp inOwn
        obtain ⟨other, property, _, _, declared, same, _, _⟩ :=
          (mem_memberFailures laterOk _ _).mp inLater
        simp only [List.cons.injEq, Segment.name.injEq] at same
        have again : other ∈ rest.map Prod.fst := List.mem_map_of_mem (f := Prod.fst) declared
        rw [← same.1] at again
        exact fresh again

theorem itemFailures_nodup {failuresOf : Value → Except WalkError Complaints} {position : Nat}
    {items : List Value} {found : Complaints}
    (returned : itemFailures failuresOf position items = .ok found)
    (each : ∀ item inner, failuresOf item = .ok inner → (inner.map Prod.fst).Nodup) :
    (found.map Prod.fst).Nodup := by
  induction items generalizing position found with
  | nil =>
      cases returned
      exact List.nodup_nil
  | cons item rest ih =>
      obtain ⟨own, later, ownOk, laterOk, rfl⟩ := itemFailures_cons returned
      apply append_nodup (below_nodup (each item own ownOk)) (ih laterOk)
      intro path left right inOwn inLater
      obtain ⟨tail, rfl, _⟩ := mem_below.mp inOwn
      obtain ⟨offset, _, _, _, _, same, _, _⟩ := (mem_itemFailures laterOk _ _).mp inLater
      simp only [List.cons.injEq, Segment.index.injEq] at same
      omega

/-- No location has two complaints, if no object declares a name twice. -/
theorem failures_nodup {setting : Setting} {property : Property} {value : Value}
    {complaints : Complaints} (distinct : property.DistinctNames)
    (returned : failures setting property value = .ok complaints) :
    (complaints.map Prod.fst).Nodup := by
  induction property generalizing value complaints with
  | node shape rules fallback extras ih =>
      obtain ⟨inner, own, rfl, opened, closed, single⟩ := failures_split returned
      apply append_nodup _ single.nodup
      · -- a complaint from inside has a path of one step at least, the field's own has none
        intro path left right inInner inOwn
        obtain ⟨rfl, _⟩ := (single.mem_iff path right).mp inOwn
        by_cases opens : Opens ⟨shape, rules, fallback, extras⟩ value
        · obtain ⟨_, _, _, _, _, _, same, _⟩ :=
            (mem_innerFailures (opened opens) [] left).mp inInner
          cases same
        · simp [closed opens] at inInner
      · by_cases opens : Opens ⟨shape, rules, fallback, extras⟩ value
        · have innerOk := opened opens
          rcases shape with type | (_ | members) | (_ | item)
          · cases innerOk
            exact List.nodup_nil
          · cases innerOk
            exact List.nodup_nil
          · have membersOk := (innerFailures_object_ok_iff.mp innerOk).1
            refine memberFailures_nodup membersOk distinct.here fun name child declared found => ?_
            exact ih child (List.mem_map_of_mem (f := Prod.snd) declared)
              (distinct.member declared)
          · cases innerOk
            exact List.nodup_nil
          · exact itemFailures_nodup innerOk fun element found =>
              ih item (by simp) distinct.item
        · rw [closed opens]
          exact List.nodup_nil

end RecordCheck.Walk
