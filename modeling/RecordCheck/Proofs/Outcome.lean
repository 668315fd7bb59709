/-!
Computations that may fail. Each lemma says when a composed one succeeds or fails, so that an
outcome can be traced back step by step.
-/

namespace RecordCheck

variable {error other first second : Type} {fault : error}

theorem bind_ok_iff {start : Except error first} {next : first → Except error second}
    {result : second} :
    start.bind next = .ok result ↔ ∃ value, start = .ok value ∧ next value = .ok result := by
  cases start <;> simp [Except.bind]

theorem map_ok_iff {start : Except error first} {change : first → second} {result : second} :
    start.map change = .ok result ↔ ∃ value, start = .ok value ∧ change value = result := by
  cases start <;> simp [Except.map]

@[simp] theorem mapError_ok (result : first) (change : error → other) :
    (Except.ok result).mapError change = .ok result := rfl

@[simp] theorem mapError_error (fault : error) (change : error → other) :
    (Except.error fault : Except error first).mapError change = .error (change fault) := rfl

theorem mapError_ok_iff {start : Except error first} {change : error → other} {result : first} :
    start.mapError change = .ok result ↔ start = .ok result := by
  cases start with
  | error fault => exact iff_of_false nofun nofun
  | ok value =>
      constructor
      · intro same
        cases same
        rfl
      · intro same
        cases same
        rfl

theorem mapError_error_iff {start : Except error first} {change : error → other} {cause : other} :
    start.mapError change = .error cause ↔ ∃ fault, start = .error fault ∧ change fault = cause := by
  cases start with
  | ok value => exact iff_of_false nofun nofun
  | error fault =>
      constructor
      · intro same
        cases same
        exact ⟨fault, rfl, rfl⟩
      · rintro ⟨_, same, rfl⟩
        cases same
        rfl

theorem bind_error_iff {start : Except error first} {next : first → Except error second} :
    start.bind next = .error fault ↔
      start = .error fault ∨ ∃ value, start = .ok value ∧ next value = .error fault := by
  cases start <;> simp [Except.bind]

theorem map_error_iff {start : Except error first} {change : first → second} :
    start.map change = .error fault ↔ start = .error fault := by
  cases start <;> simp [Except.map]

def Returns (outcome : Except error first) : Prop := ∃ result, outcome = .ok result

@[simp] theorem returns_ok (result : first) : Returns (.ok result : Except error first) :=
  ⟨result, rfl⟩

@[simp] theorem not_returns_error (fault : error) : ¬Returns (.error fault : Except error first) :=
  nofun

theorem returns_bind {start : Except error first} {next : first → Except error second} :
    Returns (start.bind next) ↔ ∃ value, start = .ok value ∧ Returns (next value) := by
  cases start <;> simp [Except.bind]

@[simp] theorem returns_map {start : Except error first} {change : first → second} :
    Returns (start.map change) ↔ Returns start := by
  cases start <;> simp [Except.map]

@[simp] theorem returns_mapError {start : Except error first} {change : error → other} :
    Returns (start.mapError change) ↔ Returns start := by
  exact exists_congr fun _ => mapError_ok_iff

theorem not_returns_iff {start : Except error first} :
    ¬Returns start ↔ ∃ fault, start = .error fault := by
  cases start <;> simp

end RecordCheck
