import RecordCheck.Proofs.Walk.Locations
import RecordCheck.Proofs.Walk.Trace

/-!
Lists of rules one after the other. Main statement: a field with two lists of rules, the second
after the first, is walked as with the first list alone if that list settles the matter, and as with
the second alone if it does not.
-/

namespace RecordCheck

/-- The same field with other rules. -/
def Property.withRules (property : Property) (rules : List Directive) : Property :=
  { property with rules }

namespace Walk

/-- One of the rules of a field is reported about its value: the first that is unknown or says no.
A ledger need not have room for it. -/
inductive RuleReported (setting : Setting) (property : Property) (value : Value)
    (complaint : Complaint) : Prop
  | present {result} : value ≠ .absent →
      castLeaf setting property.type value = .ok (some result) →
      property.type.admits result = true →
      FirstComplaint (Rejects setting (normal setting property value)) property.rules complaint →
      RuleReported setting property value complaint
  | missing : value = .absent → property.fallback = none →
      FirstComplaint (RejectsMissing setting) property.rules complaint →
      RuleReported setting property value complaint

/-- No further rule of the field is asked: the walk came to no end, or a rule was reported. -/
def Decided (setting : Setting) (property : Property) (path : Path) (value : Value) : Prop :=
  (∃ error, visit setting property path value = .error error) ∨
    ∃ complaint, RuleReported setting property value complaint

variable {setting : Setting}

/-- Rules are asked in order, and after the first complaint no more of them. -/
def InOrder (ask : List Directive → Except WalkError Findings) : Prop :=
  ∀ first second, ask (first ++ second) =
    (ask first).bind fun found => if found = .none then ask second else .ok found

theorem applyRules_inOrder (setting : Setting) (value : Value) (path : Path) :
    InOrder (applyRules setting value path) := by
  intro first second
  induction first with
  | nil => simp [applyRules, Except.bind]
  | cons directive rest ih =>
      simp only [List.cons_append, applyRules]
      split
      · simp [Except.bind, Findings.complaint, Findings.none]
      · split
        · rfl
        · simp [Except.bind, Findings.complaint, Findings.none]
        · exact ih

theorem applyMissingRules_inOrder (setting : Setting) (path : Path) :
    InOrder (applyMissingRules setting path) := by
  intro first second
  induction first with
  | nil => simp [applyMissingRules, Except.bind]
  | cons directive rest ih =>
      simp only [List.cons_append, applyMissingRules]
      split
      · exact ih
      · split
        · exact ih
        · split
          · rfl
          · simp [Except.bind, Findings.complaint, Findings.none]
          · exact ih

namespace Trace

variable {result : Type} {trace : Trace result}

/-- What a walk comes to is not followed by silence: if there are answers at all, they complain. -/
def Settles (trace : Trace result) (ask : result → Except WalkError Findings) : Prop :=
  ∀ value found, trace.outcome = .ok value → ask value = .ok found → found ≠ .none

variable {ask : result → List Directive → Except WalkError Findings}
  (inOrder : ∀ value, InOrder (ask value)) {first second : List Directive}

include inOrder

theorem asking_of_settles (settles : trace.Settles (ask · first)) :
    trace.asking (ask · (first ++ second)) = trace.asking (ask · first) := by
  obtain ⟨outcome, found⟩ := trace
  cases outcome with
  | error error => rfl
  | ok value =>
      have same : ask value (first ++ second) = ask value first := by
        rw [inOrder]
        cases answers : ask value first with
        | error error => rfl
        | ok own =>
            have some := settles value own rfl answers
            simp [Except.bind, some]
      simp only [asking, andThen, same]

theorem asking_of_not_settles (unsettled : ¬trace.Settles (ask · first)) :
    trace.asking (ask · (first ++ second)) = trace.asking (ask · second) := by
  simp only [Settles, not_forall, not_not] at unsettled
  obtain ⟨value, _, ended, answers, rfl⟩ := unsettled
  obtain ⟨outcome, found⟩ := trace
  cases ended
  have same : ask value (first ++ second) = ask value second := by
    rw [inOrder, answers]
    simp [Except.bind]
  simp only [asking, andThen, same]

end Trace

theorem own_none_iff {own : Complaints} {wrong : Complaint → Prop} (single : Own own wrong)
    (path : Path) :
    (findings setting own []).under path = .none ↔ ∀ complaint, ¬wrong complaint := by
  rcases single with ⟨rfl, none⟩ | ⟨complaint, rfl, only⟩
  · simp [none]
  · have wrong : wrong complaint := (only complaint).mpr rfl
    refine iff_of_false ?_ fun none => none complaint wrong
    simp [findings, Findings.under, Findings.none]

theorem applyRules_none_iff {value : Value} {path : Path} {rules : List Directive}
    {found : Findings} (returned : applyRules setting value path rules = .ok found) :
    found = .none ↔ ∀ complaint, ¬FirstComplaint (Rejects setting value) rules complaint := by
  rw [applyRules_eq, map_ok_iff] at returned
  obtain ⟨own, ownOk, rfl⟩ := returned
  exact own_none_iff (applyRules_own ownOk) path

theorem applyMissingRules_none_iff {path : Path} {rules : List Directive}
    {found : Findings} (returned : applyMissingRules setting path rules = .ok found) :
    found = .none ↔ ∀ complaint, ¬FirstComplaint (RejectsMissing setting) rules complaint := by
  rw [applyMissingRules_eq, map_ok_iff] at returned
  obtain ⟨own, ownOk, rfl⟩ := returned
  exact own_none_iff (applyMissingRules_own ownOk) path

section Reported

variable {property : Property} {value result : Value}

theorem ruleReported_of_missing (unfilled : property.fallback = none) (complaint : Complaint) :
    RuleReported setting property .absent complaint ↔
      FirstComplaint (RejectsMissing setting) property.rules complaint := by
  constructor
  · rintro (⟨present, _⟩ | ⟨_, _, first⟩)
    · exact absurd rfl present
    · exact first
  · exact RuleReported.missing rfl unfilled

theorem ruleReported_of_admitted (present : value ≠ .absent)
    (cast : castLeaf setting property.type value = .ok (some result))
    (admitted : property.type.admits result = true) (complaint : Complaint) :
    RuleReported setting property value complaint ↔
      FirstComplaint (Rejects setting (normal setting property value)) property.rules
        complaint := by
  constructor
  · rintro (⟨_, _, _, first⟩ | ⟨absent, _, _⟩)
    · exact first
    · exact absurd absent present
  · exact RuleReported.present present cast admitted

theorem RuleReported.fails {complaint : Complaint}
    (reported : RuleReported setting property value complaint) :
    Fails setting property value complaint := by
  cases reported with
  | present present cast admitted first => exact .rule present cast admitted first
  | missing absent unfilled first => exact .missing absent unfilled first

theorem not_ruleReported_of_silent (silent : failures setting property value = .ok [])
    (complaint : Complaint) : ¬RuleReported setting property value complaint := by
  intro reported
  have member := (mem_failures_iff silent [] complaint).mpr
    ⟨property, value, .here, reported.fails⟩
  cases member

end Reported

theorem decided_iff_settles {property : Property} {path : Path} {value : Value}
    {before : Trace Value} {ask : Value → Except WalkError Findings}
    (asks : trace setting property path value = before.asking ask)
    (reported : ∀ result found, before.outcome = .ok result → ask result = .ok found →
      (found = .none ↔ ∀ complaint, ¬RuleReported setting property value complaint)) :
    Decided setting property path value ↔ before.Settles ask := by
  have visited : visit setting property path value = (before.asking ask).step := by
    rw [← trace_step, asks]
  constructor
  · rintro (⟨error, failed⟩ | ⟨complaint, wrong⟩) result found ended answers none
    · rw [visited, Trace.step_asking] at failed
      simp [Trace.step, ended, answers, Except.map, Except.bind] at failed
    · exact (reported result found ended answers).mp none complaint wrong
  · intro settles
    cases ended : before.outcome with
    | error error =>
        refine Or.inl ⟨error, ?_⟩
        rw [visited, Trace.step_asking]
        simp [Trace.step, ended, Except.map, Except.bind]
    | ok result =>
        cases answers : ask result with
        | error error =>
            refine Or.inl ⟨error, ?_⟩
            rw [visited, Trace.step_asking]
            simp [Trace.step, ended, answers, Except.map, Except.bind]
        | ok found =>
            right
            by_contra silent
            have none : found = .none := by
              apply (reported result found ended answers).mpr
              intro complaint wrong
              exact silent ⟨complaint, wrong⟩
            exact settles result found ended answers none

theorem outcome_traceInside {shape : Shape Property} {path : Path} {value result : Value}
    (ended : (traceInside setting shape path value).outcome = .ok result) :
    result = normalInside setting shape value := by
  have steps : (traceInside setting shape path value).step = visitInside setting shape path value :=
    traceInside_step (fun child _ => trace_step child) path value
  rw [visitInside_eq setting shape (fun child _ => visit_eq setting child), Trace.step, ended]
    at steps
  obtain ⟨_, _, same⟩ := map_ok_iff.mp steps.symm
  exact (congrArg Prod.fst same).symm

theorem trace_append (setting : Setting) (property : Property) (path : Path) (value : Value)
    (first second : List Directive) :
    (Decided setting (property.withRules first) path value →
      trace setting (property.withRules (first ++ second)) path value =
        trace setting (property.withRules first) path value) ∧
    (¬Decided setting (property.withRules first) path value →
      trace setting (property.withRules (first ++ second)) path value =
        trace setting (property.withRules second) path value) := by
  obtain ⟨shape, rules, fallback, extras⟩ := property
  by_cases absent : value = .absent
  · subst absent
    cases fallback with
    | some default => simp [Property.withRules, trace]
    | none =>
        have asks : ∀ rules, trace setting ⟨shape, rules, none, extras⟩ path .absent =
            (traceAbsent setting shape path).asking fun _ =>
              applyMissingRules setting path rules := fun rules => by simp [trace]
        have decided := decided_iff_settles (asks first) fun result found _ answers => by
          have reported := @ruleReported_of_missing setting ⟨shape, first, none, extras⟩ rfl
          simp only [reported]
          exact applyMissingRules_none_iff answers
        simp only [Property.withRules, decided, asks]
        have inOrder : ∀ _ : Value, InOrder (applyMissingRules setting path) :=
          fun _ => applyMissingRules_inOrder setting path
        exact ⟨Trace.asking_of_settles inOrder, Trace.asking_of_not_settles inOrder⟩
  · cases cast : castLeaf setting shape.type value with
    | error error => simp [Property.withRules, trace, absent, cast]
    | ok outcome =>
        cases outcome with
        | none => simp [Property.withRules, trace, absent, cast]
        | some result =>
            by_cases admitted : shape.type.admits result = true
            · have asks : ∀ rules, trace setting ⟨shape, rules, fallback, extras⟩ path value =
                  (traceInside setting shape path result).asking fun inner =>
                    applyRules setting inner path rules :=
                fun rules => by simp [trace, absent, cast, admitted]
              have decided := decided_iff_settles (asks first) fun inner found ended answers => by
                have reported := @ruleReported_of_admitted setting ⟨shape, first, fallback, extras⟩
                  value result absent cast admitted
                rw [normal_of_admitted ⟨shape, first, fallback, extras⟩ absent cast admitted,
                  ← outcome_traceInside ended] at reported
                simp only [reported]
                exact applyRules_none_iff answers
              simp only [Property.withRules, decided, asks]
              have inOrder : ∀ inner, InOrder (applyRules setting inner path) :=
                fun inner => applyRules_inOrder setting inner path
              exact ⟨Trace.asking_of_settles inOrder, Trace.asking_of_not_settles inOrder⟩
            · simp [Property.withRules, trace, absent, cast, admitted]

/-- The rules of two lists, one after the other. If the walk with the first list comes to no end, or
one of its rules is reported, then nothing of the second list is asked: the walk with both is the
one with the first, and so is what it leaves in a ledger, whatever that held before. Otherwise the
walk with both is the one with the second list. -/
theorem rule_lists_compose (setting : Setting) (property : Property) (path : Path) (value : Value)
    (first second : List Directive) :
    (Decided setting (property.withRules first) path value →
      visit setting (property.withRules (first ++ second)) path value =
        visit setting (property.withRules first) path value ∧
      ∀ ledger, run setting (property.withRules (first ++ second)) path value ledger =
        run setting (property.withRules first) path value ledger) ∧
    (¬Decided setting (property.withRules first) path value →
      visit setting (property.withRules (first ++ second)) path value =
        visit setting (property.withRules second) path value ∧
      ∀ ledger, run setting (property.withRules (first ++ second)) path value ledger =
        run setting (property.withRules second) path value ledger) := by
  obtain ⟨stays, goes⟩ := trace_append setting property path value first second
  -- the walk and what it leaves in a ledger are both read off the trace
  have alike : ∀ {one other : Property},
      trace setting one path value = trace setting other path value →
        visit setting one path value = visit setting other path value ∧
          ∀ ledger, run setting one path value ledger = run setting other path value ledger := by
    intro one other same
    refine ⟨?_, fun ledger => ?_⟩
    · rw [← trace_step, ← trace_step, same]
    · rw [run, run, same]
  exact ⟨fun decided => alike (stays decided), fun undecided => alike (goes undecided)⟩

def code : Property := ⟨.scalar .string, [], none, []⟩

def longEnough : List Directive := [⟨"minLength", [.positional (.text "5")]⟩]

def unfinished : List Directive := [⟨"equals", []⟩]

def lengthRule : Rule :=
  .make "minLength" Standard.minLength "Value should have a length of at least \x7b0\x7d" none
    false

def codeSetting : Setting := ⟨.filter, false, Standard.registry, .dict []⟩

def usedLedger : Ledger := ⟨[("id", ⟨"VALIDATION_FAILED_REQUIRED", "Value is required"⟩)], []⟩

def shortCode : String × Complaint :=
  ("code", ⟨"VALIDATION_FAILED_MIN_LENGTH", "Value should have a length of at least 5"⟩)

/-- The unfinished rule fails when it is asked. It is not asked about a code that is too short. -/
theorem code_rules_compose :
    visit codeSetting (code.withRules unfinished) [.name "code"] (.text "abc") =
      .error (.rule (.fieldNeeded "equals")) ∧
    run codeSetting (code.withRules (longEnough ++ unfinished)) [.name "code"] (.text "abc")
      usedLedger = (.ok (.text "abc"), ⟨usedLedger.complaints ++ [shortCode], []⟩) ∧
    visit codeSetting (code.withRules (longEnough ++ unfinished)) [.name "code"] (.text "abcde") =
      .error (.rule (.fieldNeeded "equals")) := by
  have rejected : Rejects codeSetting (.text "abc") ⟨"minLength", [.positional (.text "5")]⟩
      shortCode.2 := by
    have known : codeSetting.registry.find? "minLength" = some lengthRule := by rfl
    have complained : shortCode.2 = ⟨lengthRule.errorId, shortCode.2.message⟩ := by decide +kernel
    rw [complained]
    exact .refused known (by decide +kernel) (by decide +kernel)
  have short : Decided codeSetting (code.withRules longEnough) [.name "code"] (.text "abc") :=
    Or.inr ⟨shortCode.2, .present nofun rfl rfl (.here rejected)⟩
  have long : ¬Decided codeSetting (code.withRules longEnough) [.name "code"]
      (.text "abcde") := by
    have visited : visit codeSetting (code.withRules longEnough) [.name "code"] (.text "abcde") =
        .ok (.text "abcde", .none) := by decide +kernel
    have silent : failures codeSetting (code.withRules longEnough) (.text "abcde") = .ok [] := by
      decide +kernel
    rintro (⟨error, failed⟩ | ⟨complaint, reported⟩)
    · rw [visited] at failed
      cases failed
    · exact not_ruleReported_of_silent silent complaint reported
  refine ⟨by decide +kernel, ?_, ?_⟩
  · rw [((rule_lists_compose _ _ _ _ _ _).1 short).2]
    decide +kernel
  · rw [((rule_lists_compose _ _ _ _ _ _).2 long).1]
    decide +kernel

end Walk

end RecordCheck
