import Mathlib.Data.Nat.Dist
import Mathlib.Tactic.Ring
import RecordCheck.Number.Binary64

/-!
How an integer becomes a floating point number. It is rounded to 53 significant bits, to the nearest
such integer and on a tie to the one with an even last bit; only an integer of at least
`overflowBound` finds no finite number. Integers of 53 significant bits stay what they are.
-/

namespace RecordCheck

section Quotients

variable {numerator denominator : Nat}

/-- A quotient is rounded down if the rest is at most half, and up if it is at least half. -/
theorem roundHalfEven_cases (numerator denominator : Nat) :
    (roundHalfEven numerator denominator = numerator / denominator ∧
      2 * (numerator % denominator) ≤ denominator) ∨
    (roundHalfEven numerator denominator = numerator / denominator + 1 ∧
      denominator ≤ 2 * (numerator % denominator)) := by
  unfold roundHalfEven
  dsimp only
  split
  · rename_i down
    simp only [Bool.or_eq_true, Bool.and_eq_true, decide_eq_true_eq, beq_iff_eq] at down
    exact Or.inl ⟨rfl, by omega⟩
  · rename_i up
    simp only [Bool.or_eq_true, Bool.and_eq_true, decide_eq_true_eq, beq_iff_eq, not_or] at up
    exact Or.inr ⟨rfl, by omega⟩

theorem roundHalfEven_of_odd (odd : numerator / denominator % 2 = 1)
    (half : denominator ≤ 2 * (numerator % denominator)) :
    roundHalfEven numerator denominator = numerator / denominator + 1 := by
  unfold roundHalfEven
  dsimp only
  rw [if_neg]
  simp only [Bool.or_eq_true, Bool.and_eq_true, decide_eq_true_eq, beq_iff_eq]
  omega

theorem roundHalfEven_of_dvd (positive : 0 < denominator) (divides : denominator ∣ numerator) :
    roundHalfEven numerator denominator = numerator / denominator := by
  have none := Nat.mod_eq_zero_of_dvd divides
  rcases roundHalfEven_cases numerator denominator with ⟨down, _⟩ | ⟨_, half⟩
  · exact down
  · omega

theorem roundHalfEven_mul_right {factor : Nat} (positive : 0 < factor) :
    roundHalfEven (numerator * factor) (denominator * factor) =
      roundHalfEven numerator denominator := by
  have below : 2 * (numerator % denominator * factor) < denominator * factor ↔
      2 * (numerator % denominator) < denominator := by
    rw [← Nat.mul_assoc, Nat.mul_lt_mul_right positive]
  have half : 2 * (numerator % denominator * factor) = denominator * factor ↔
      2 * (numerator % denominator) = denominator := by
    rw [← Nat.mul_assoc, Nat.mul_left_inj (Nat.ne_of_gt positive)]
  simp only [roundHalfEven, Nat.mul_div_mul_right _ _ positive, Nat.mul_mod_mul_right, below,
    Bool.beq_eq_decide_eq, half]

/-- No multiple of the denominator is nearer than the one that rounding chooses. -/
theorem roundHalfEven_nearest (numerator : Nat) (positive : 0 < denominator) (factor : Nat) :
    Nat.dist numerator (roundHalfEven numerator denominator * denominator) ≤
      Nat.dist numerator (factor * denominator) := by
  have parts := Nat.div_add_mod' numerator denominator
  have rest := Nat.mod_lt numerator positive
  have next : (numerator / denominator + 1) * denominator =
      numerator / denominator * denominator + denominator := Nat.succ_mul _ _
  have side : factor * denominator ≤ numerator / denominator * denominator ∨
      numerator / denominator * denominator + denominator ≤ factor * denominator := by
    rcases Nat.lt_or_ge (numerator / denominator) factor with above | below
    · exact Or.inr (next ▸ Nat.mul_le_mul_right denominator above)
    · exact Or.inl (Nat.mul_le_mul_right _ below)
  unfold Nat.dist
  rcases roundHalfEven_cases numerator denominator with ⟨down, half⟩ | ⟨up, half⟩
  · rw [down]
    omega
  · rw [up, next]
    omega

end Quotients

namespace Binary64

/-- The step between the magnitudes of 53 significant bits around a number. -/
def gap (number : Nat) : Nat := 2 ^ (number.log2 - 52)

def Short (number : Nat) : Prop := ∃ bits exponent, bits < 2 ^ 53 ∧ number = bits * 2 ^ exponent

theorem gap_pos (number : Nat) : 0 < gap number := Nat.two_pow_pos _

theorem lt_gap (number : Nat) : number < 2 ^ 53 * gap number := by
  calc number < 2 ^ (number.log2 + 1) := Nat.lt_log2_self
    _ ≤ 2 ^ (53 + (number.log2 - 52)) := Nat.pow_le_pow_right (by decide) (by omega)
    _ = 2 ^ 53 * gap number := Nat.pow_add ..

theorem full_of_coarse {number : Nat} (coarse : 52 < number.log2) :
    2 ^ 52 * gap number ≤ number := by
  have some : number ≠ 0 := by
    rintro rfl
    simp at coarse
  calc 2 ^ 52 * gap number = 2 ^ (52 + (number.log2 - 52)) := (Nat.pow_add ..).symm
    _ = 2 ^ number.log2 := by rw [Nat.add_sub_cancel' (by omega)]
    _ ≤ number := Nat.log2_self_le some

theorem short_of_bits {bits : Nat} (exponent : Nat) (few : bits ≤ 2 ^ 53) :
    Short (bits * 2 ^ exponent) := by
  by_cases full : bits = 2 ^ 53
  · refine ⟨1, 53 + exponent, by decide, ?_⟩
    rw [full, Nat.pow_add, Nat.one_mul]
  · exact ⟨bits, exponent, by omega, rfl⟩

theorem short_of_le {number : Nat} (small : number ≤ 2 ^ 53) : Short number := by
  have short := short_of_bits 0 small
  rwa [Nat.pow_zero, Nat.mul_one] at short

theorem gap_dvd_iff {number : Nat} : gap number ∣ number ↔ Short number := by
  constructor
  · rintro ⟨bits, eq⟩
    refine ⟨bits, number.log2 - 52, ?_, eq.trans (Nat.mul_comm ..)⟩
    refine Nat.lt_of_mul_lt_mul_left (a := gap number) ?_
    rw [← eq, Nat.mul_comm]
    exact lt_gap number
  · rintro ⟨bits, exponent, few, rfl⟩
    refine Nat.dvd_trans (Nat.pow_dvd_pow 2 ?_) (Nat.dvd_mul_left _ bits)
    by_cases none : bits = 0
    · rw [none, Nat.zero_mul, Nat.log2_zero]
      exact Nat.zero_le _
    · have some : bits * 2 ^ exponent ≠ 0 := Nat.mul_ne_zero none (Nat.two_pow_pos _).ne'
      have bound : (bits * 2 ^ exponent).log2 < 53 + exponent := by
        rw [Nat.log2_lt some, Nat.pow_add]
        exact Nat.mul_lt_mul_of_pos_right few (Nat.two_pow_pos _)
      omega

theorem nearestUnits_one (number : Nat) :
    nearestUnits number 1 = roundHalfEven number (gap number) * gap number := by
  rw [nearestUnits, Nat.div_one, Nat.one_mul]
  rfl

theorem nearestUnits_of_short {number : Nat} (short : Short number) :
    nearestUnits number 1 = number := by
  have divides := gap_dvd_iff.mpr short
  rw [nearestUnits_one, roundHalfEven_of_dvd (gap_pos number) divides, Nat.div_mul_cancel divides]

theorem roundHalfEven_le (number : Nat) : roundHalfEven number (gap number) ≤ 2 ^ 53 := by
  have below : number / gap number < 2 ^ 53 := by
    rw [Nat.div_lt_iff_lt_mul (gap_pos number)]
    exact lt_gap number
  rcases roundHalfEven_cases number (gap number) with ⟨down, _⟩ | ⟨up, _⟩ <;> omega

theorem nearestUnits_short (number : Nat) : Short (nearestUnits number 1) := by
  rw [nearestUnits_one]
  exact short_of_bits _ (roundHalfEven_le number)

theorem nearestUnits_eq_iff {number : Nat} : nearestUnits number 1 = number ↔ Short number := by
  constructor
  · intro same
    rw [← same]
    exact nearestUnits_short number
  · exact nearestUnits_of_short

theorem nearestUnits_nearest (number : Nat) {other : Nat} (short : Short other) :
    Nat.dist number (nearestUnits number 1) ≤ Nat.dist number other := by
  obtain ⟨bits, exponent, few, rfl⟩ := short
  rw [nearestUnits_one]
  by_cases coarse : number.log2 - 52 ≤ exponent
  · -- the other number is a multiple of the step
    have multiple : bits * 2 ^ exponent = bits * 2 ^ (exponent - (number.log2 - 52)) * gap number := by
      rw [gap, Nat.mul_assoc, ← Nat.pow_add, Nat.sub_add_cancel coarse]
    rw [multiple]
    exact roundHalfEven_nearest number (gap_pos number) _
  · -- the other number lies below all numbers of 53 bits with this step
    have below : bits * 2 ^ exponent < 2 ^ 52 * gap number := by
      calc bits * 2 ^ exponent < 2 ^ 53 * 2 ^ exponent :=
            Nat.mul_lt_mul_of_pos_right few (Nat.two_pow_pos _)
        _ = 2 ^ (53 + exponent) := (Nat.pow_add ..).symm
        _ ≤ 2 ^ (52 + (number.log2 - 52)) := Nat.pow_le_pow_right (by decide) (by omega)
        _ = 2 ^ 52 * gap number := Nat.pow_add ..
    have least := roundHalfEven_nearest number (gap_pos number) (2 ^ 52)
    have full : 2 ^ 52 * gap number ≤ number := full_of_coarse (by omega)
    unfold Nat.dist at least ⊢
    omega

/-- Moving the bits of a number moves those of the number that it is rounded to. -/
theorem nearestUnits_mul_pow (number exponent : Nat) :
    nearestUnits (number * 2 ^ exponent) 1 = nearestUnits number 1 * 2 ^ exponent := by
  by_cases small : number ≤ 2 ^ 53
  · rw [nearestUnits_of_short (short_of_bits _ small), nearestUnits_of_short (short_of_le small)]
  · have some : number ≠ 0 := by
      rintro rfl
      exact small (Nat.zero_le _)
    have long : 52 ≤ number.log2 := (Nat.le_log2 some).mpr (by omega)
    have log : (number * 2 ^ exponent).log2 = number.log2 + exponent := by
      refine (Nat.log2_eq_iff (Nat.mul_ne_zero some (Nat.two_pow_pos _).ne')).mpr ⟨?_, ?_⟩
      · rw [Nat.pow_add]
        exact Nat.mul_le_mul_right _ (Nat.log2_self_le some)
      · rw [Nat.add_right_comm, Nat.pow_add]
        exact Nat.mul_lt_mul_of_pos_right Nat.lt_log2_self (Nat.two_pow_pos _)
    have wider : gap (number * 2 ^ exponent) = gap number * 2 ^ exponent := by
      rw [gap, gap, log, ← Nat.pow_add]
      congr 1
      omega
    rw [nearestUnits_one, nearestUnits_one, wider, roundHalfEven_mul_right (Nat.two_pow_pos _),
      Nat.mul_assoc]

/-- The greatest number of 53 bits is left upwards from half a step above it on: it is odd, so that
a tie goes up. -/
theorem roundHalfEven_lt_iff {number half : Nat} (positive : 0 < half)
    (bound : number < 2 ^ 53 * (2 * half)) :
    roundHalfEven number (2 * half) < 2 ^ 53 ↔ number < 2 ^ 54 * half - half := by
  have step : 0 < 2 * half := by omega
  have quotient : number / (2 * half) < 2 ^ 53 := (Nat.div_lt_iff_lt_mul step).mpr bound
  by_cases below : number < (2 ^ 53 - 1) * (2 * half)
  · have smaller : number / (2 * half) < 2 ^ 53 - 1 := (Nat.div_lt_iff_lt_mul step).mpr below
    refine iff_of_true ?_ (by omega)
    rcases roundHalfEven_cases number (2 * half) with ⟨down, _⟩ | ⟨up, _⟩ <;> omega
  · have greatest : number / (2 * half) = 2 ^ 53 - 1 := by
      have least : ¬number / (2 * half) < 2 ^ 53 - 1 :=
        fun smaller => below ((Nat.div_lt_iff_lt_mul step).mp smaller)
      omega
    have parts := Nat.div_add_mod' number (2 * half)
    rw [greatest] at parts
    by_cases low : 2 * (number % (2 * half)) < 2 * half
    · refine iff_of_true ?_ (by omega)
      rcases roundHalfEven_cases number (2 * half) with ⟨down, _⟩ | ⟨up, high⟩ <;> omega
    · refine iff_of_false ?_ (by omega)
      rw [roundHalfEven_of_odd (by rw [greatest]; decide) (by omega)]
      omega

/-- A number is rounded to a higher power of two, or beyond, from half a step below it on. -/
theorem nearestUnits_lt_iff (number exponent : Nat) :
    nearestUnits number 1 < 2 ^ (exponent + 54) ↔
      number < 2 ^ (exponent + 54) - 2 ^ exponent := by
  have positive : 0 < 2 ^ exponent := Nat.two_pow_pos _
  have power : 2 ^ (exponent + 54) = 2 ^ 54 * 2 ^ exponent := by rw [Nat.pow_add, Nat.mul_comm]
  have bound := lt_gap number
  rw [nearestUnits_one]
  rcases Nat.lt_trichotomy number.log2 (exponent + 53) with lower | same | higher
  · have fine : gap number ≤ 2 ^ exponent := Nat.pow_le_pow_right (by decide) (by omega)
    have few := Nat.mul_le_mul (roundHalfEven_le number) fine
    refine iff_of_true ?_ ?_ <;> omega
  · have twice : gap number = 2 * 2 ^ exponent := by
      rw [gap, same, ← Nat.pow_succ']
      congr 1
    rw [twice] at bound ⊢
    rw [power, ← roundHalfEven_lt_iff positive bound]
    have scale : 2 ^ 54 * 2 ^ exponent = 2 ^ 53 * (2 * 2 ^ exponent) := by ring
    rw [scale, Nat.mul_lt_mul_right (by omega)]
  · have coarse : 2 ^ 2 * 2 ^ exponent ≤ gap number := by
      rw [← Nat.pow_add]
      exact Nat.pow_le_pow_right (by decide) (by omega)
    have full : 2 ^ 52 * gap number ≤ number := full_of_coarse (by omega)
    have quotient : 2 ^ 52 ≤ number / gap number :=
      (Nat.le_div_iff_mul_le (gap_pos number)).mpr full
    have rounded : 2 ^ 52 ≤ roundHalfEven number (gap number) := by
      rcases roundHalfEven_cases number (gap number) with ⟨down, _⟩ | ⟨up, _⟩ <;> omega
    have large := Nat.mul_le_mul_right (gap number) rounded
    refine iff_of_false ?_ ?_ <;> omega

/-- From here on an integer is nearer to infinity than to any finite number: half a step above the
greatest one. -/
def overflowBound : Nat := Nat.pow 2 1024 - Nat.pow 2 970

/-- The integer of at most 53 significant bits that an integer is rounded to. -/
def nearestInt (integer : Int) : Int :=
  if integer < 0 then -(nearestUnits integer.natAbs 1 : Int) else nearestUnits integer.natAbs 1

def Exact (integer : Int) : Prop := Short integer.natAbs

theorem exact_of_le {integer : Int} (small : integer.natAbs ≤ 2 ^ 53) : Exact integer :=
  short_of_le small

theorem lt_bound_of_le {integer : Int} (small : integer.natAbs ≤ 2 ^ 53) :
    integer.natAbs < overflowBound := by
  have bound : 2 ^ 53 < overflowBound := by
    decide +kernel
  exact Nat.lt_of_le_of_lt small bound

theorem nearestInt_eq_iff {integer : Int} : nearestInt integer = integer ↔ Exact integer := by
  rw [Exact, ← nearestUnits_eq_iff, nearestInt]
  split <;> omega

theorem exact_nearestInt (integer : Int) : Exact (nearestInt integer) := by
  have short := nearestUnits_short integer.natAbs
  rw [Exact, nearestInt]
  split
  · rwa [Int.natAbs_neg, Int.natAbs_natCast]
  · rwa [Int.natAbs_natCast]

theorem nearestInt_nearest (integer : Int) {other : Int} (exact : Exact other) :
    (integer - nearestInt integer).natAbs ≤ (integer - other).natAbs := by
  have nearer := nearestUnits_nearest integer.natAbs exact
  have zero := nearestUnits_nearest integer.natAbs (short_of_le (Nat.zero_le _))
  unfold Nat.dist at nearer zero
  rw [nearestInt]
  split <;> omega

theorem representable_iff {units : Nat} :
    Representable units ↔ units < Nat.pow 2 2098 ∧ Short units := by
  rw [← gap_dvd_iff, Nat.dvd_iff_mod_eq_zero]
  exact Iff.rfl

theorem unitsPerOne_power : ∃ exponent, unitsPerOne = 2 ^ exponent := by
  refine ⟨1074, ?_⟩
  decide +kernel

/-- The bound lies half a step below the power of two at which finite numbers end. -/
theorem overflowBound_power : ∃ exponent,
    overflowBound = 2 ^ (exponent + 54) - 2 ^ exponent ∧
      Nat.pow 2 2098 = 2 ^ (exponent + 54) * unitsPerOne := by
  refine ⟨970, ?_, ?_⟩ <;> decide +kernel

theorem unitsPerOne_pos : 0 < unitsPerOne := by
  obtain ⟨exponent, power⟩ := unitsPerOne_power
  rw [power]
  exact Nat.two_pow_pos exponent

theorem nearestUnits_units (number : Nat) :
    nearestUnits (number * unitsPerOne) 1 = nearestUnits number 1 * unitsPerOne := by
  obtain ⟨exponent, power⟩ := unitsPerOne_power
  rw [power, nearestUnits_mul_pow]

theorem representable_nearest_iff {number : Nat} :
    Representable (nearestUnits number 1 * unitsPerOne) ↔ number < overflowBound := by
  obtain ⟨exponent, bound, units⟩ := overflowBound_power
  have short : Short (nearestUnits number 1 * unitsPerOne) := by
    rw [← nearestUnits_units]
    exact nearestUnits_short _
  rw [representable_iff, and_iff_left short, units, Nat.mul_lt_mul_right unitsPerOne_pos, bound,
    nearestUnits_lt_iff]

theorem ofInt_eq (integer : Int) : ofInt integer =
    ofUnits (integer < 0) (nearestUnits integer.natAbs 1 * unitsPerOne) := by
  rw [ofInt, ofRatio, nearestUnits_units]

theorem ofInt_of_lt {integer : Int} (small : integer.natAbs < overflowBound) :
    ofInt integer = .finite (integer < 0) (nearestUnits integer.natAbs 1 * unitsPerOne)
      (representable_nearest_iff.mpr small) := by
  rw [ofInt_eq, ofUnits, dif_pos]

theorem ofInt_of_le {integer : Int} (large : overflowBound ≤ integer.natAbs) :
    ofInt integer = .infinite (integer < 0) := by
  rw [ofInt_eq, ofUnits, dif_neg]
  rw [representable_nearest_iff]
  omega

theorem isFinite_ofInt_iff {integer : Int} :
    (ofInt integer).isFinite = true ↔ integer.natAbs < overflowBound := by
  rcases Nat.lt_or_ge integer.natAbs overflowBound with small | large
  · rw [ofInt_of_lt small]
    exact iff_of_true rfl small
  · rw [ofInt_of_le large]
    exact iff_of_false nofun (by omega)

theorem truncate?_ofInt {integer : Int} (small : integer.natAbs < overflowBound) :
    (ofInt integer).truncate? = some (nearestInt integer) := by
  rw [ofInt_of_lt small, truncate?, Nat.mul_div_cancel _ unitsPerOne_pos, nearestInt]
  by_cases negative : integer < 0 <;> simp [negative]

theorem place?_ofInt {integer : Int} (small : integer.natAbs < overflowBound) :
    (Number.binary (ofInt integer)).place? = (Number.whole (nearestInt integer)).place? := by
  rw [ofInt_of_lt small, Number.place?, Number.place?, nearestInt, Int.natCast_mul]
  by_cases negative : integer < 0
  · rw [decide_eq_true negative, if_pos rfl, if_pos negative, Int.neg_mul]
  · rw [decide_eq_false negative, if_neg Bool.false_ne_true, if_neg negative]

end Binary64

end RecordCheck
