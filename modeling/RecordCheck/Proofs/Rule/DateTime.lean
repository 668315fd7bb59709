import Mathlib.Tactic.IntervalCases
import RecordCheck.Proofs.Text.Cut
import RecordCheck.Rule.Standard

/-!
Date-times as they are written. Main statement: the texts that are read as date-times are exactly
those that are written from a date of the Gregorian calendar, a time of day, a fraction of at most
six digits and a zone less than a day away.
-/

namespace RecordCheck

namespace DateTime

/-- The last digits of a number, as many as asked for. -/
def padded : Nat → Nat → List Char
  | 0, _ => []
  | width + 1, number => padded width (number / 10) ++ [Nat.digitChar (number % 10)]

def writeFraction : List Char → List Char
  | [] => []
  | digits => '.' :: digits

def Fraction (digits : List Char) : Prop :=
  digits.length ≤ 6 ∧ ∀ char ∈ digits, char.isDigit = true

/-- Universal time, or a distance from it. -/
inductive Zone
  | universal
  | offset (west : Bool) (hours minutes : Nat)

namespace Zone

def write : Zone → List Char
  | universal => ['Z']
  | offset west hours minutes =>
      (if west then '-' else '+') :: (padded 2 hours ++ ':' :: padded 2 minutes)

def distance : Zone → Nat
  | universal => 0
  | offset _ hours minutes => 60 * hours + minutes

def Fits : Zone → Prop
  | universal => True
  | offset _ hours minutes => hours < 100 ∧ minutes < 100

end Zone

/-- A date-time with everything that is written of it. -/
structure Stamp where
  year : Nat
  month : Nat
  day : Nat
  hour : Nat
  minute : Nat
  second : Nat
  fraction : List Char
  zone : Zone

def Leap (year : Nat) : Prop := 4 ∣ year ∧ (100 ∣ year → 400 ∣ year)

instance (year : Nat) : Decidable (Leap year) := inferInstanceAs (Decidable (_ ∧ _))

def monthLengths (year : Nat) : List Nat :=
  [31, if Leap year then 29 else 28, 31, 30, 31, 30, 31, 31, 30, 31, 30, 31]

namespace Stamp

def write (stamp : Stamp) : List Char :=
  padded 4 stamp.year ++ '-' :: (padded 2 stamp.month ++ '-' :: (padded 2 stamp.day ++ 'T' ::
    (padded 2 stamp.hour ++ ':' :: (padded 2 stamp.minute ++ ':' :: (padded 2 stamp.second ++
      (writeFraction stamp.fraction ++ stamp.zone.write))))))

/-- The fields name a day and a time of that day, and the zone is less than a day away. -/
structure Valid (stamp : Stamp) : Prop where
  year : 1 ≤ stamp.year ∧ stamp.year ≤ 9999
  month : 1 ≤ stamp.month ∧ stamp.month ≤ 12
  day : 1 ≤ stamp.day ∧ ∃ length, (monthLengths stamp.year)[stamp.month - 1]? = some length ∧
    stamp.day ≤ length
  hour : stamp.hour < 24
  minute : stamp.minute < 60
  second : stamp.second < 60
  fraction : Fraction stamp.fraction
  zone : stamp.zone.Fits ∧ stamp.zone.distance < 24 * 60

structure Fits (stamp : Stamp) : Prop where
  year : stamp.year < 10 ^ 4
  month : stamp.month < 10 ^ 2
  day : stamp.day < 10 ^ 2
  hour : stamp.hour < 10 ^ 2
  minute : stamp.minute < 10 ^ 2
  second : stamp.second < 10 ^ 2
  fraction : Fraction stamp.fraction
  zone : stamp.zone.Fits

/-- What is read of a date-time: all but the fraction and the sign of the offset. -/
def moment (stamp : Stamp) : Moment where
  year := stamp.year
  month := stamp.month
  day := stamp.day
  hour := stamp.hour
  minute := stamp.minute
  second := stamp.second
  offset := stamp.zone.distance

end Stamp

theorem isDigit_iff {char : Char} :
    char.isDigit = true ↔ ∃ digit < 10, char = Nat.digitChar digit := by
  constructor
  · intro isDigit
    have bounds : 48 ≤ char.toNat ∧ char.toNat ≤ 57 := by
      simp only [Char.isDigit, Bool.and_eq_true, decide_eq_true_eq] at isDigit
      exact ⟨UInt32.le_iff_toNat_le.mp isDigit.1, UInt32.le_iff_toNat_le.mp isDigit.2⟩
    have table : ∀ digit < 10, Char.ofNat (48 + digit) = Nat.digitChar digit := by decide
    refine ⟨char.toNat - 48, by omega, ?_⟩
    rw [← table _ (by omega), Nat.add_sub_cancel' bounds.1, Char.ofNat_toNat]
  · rintro ⟨digit, below, rfl⟩
    have table : ∀ digit < 10, (Nat.digitChar digit).isDigit = true := by decide
    exact table digit below

theorem toNat_digitChar {digit : Nat} (below : digit < 10) :
    (Nat.digitChar digit).toNat - 48 = digit := by
  have table : ∀ digit < 10, (Nat.digitChar digit).toNat - 48 = digit := by decide
  exact table digit below

theorem digits?_succ (width value : Nat) (chars : List Char) :
    digits? (width + 1) value chars =
      (digits? width value chars).bind fun read => digits? 1 read.1 read.2 := by
  induction width generalizing value chars with
  | zero => rfl
  | succ width ih =>
      cases chars with
      | nil => rfl
      | cons char rest =>
          rw [digits?, digits?]
          split
          · exact ih _ rest
          · rfl

theorem digits?_one_iff {value number : Nat} {chars rest : List Char} :
    digits? 1 value chars = some (number, rest) ↔
      ∃ digit < 10, chars = Nat.digitChar digit :: rest ∧ number = 10 * value + digit := by
  constructor
  · intro read
    cases chars with
    | nil => cases read
    | cons char later =>
        simp only [digits?] at read
        split at read
        · rename_i isDigit
          obtain ⟨digit, below, rfl⟩ := isDigit_iff.mp isDigit
          cases read
          exact ⟨digit, below, rfl, by rw [toNat_digitChar below]⟩
        · cases read
  · rintro ⟨digit, below, rfl, rfl⟩
    have isDigit := isDigit_iff.mpr ⟨digit, below, rfl⟩
    simp [digits?, isDigit, toNat_digitChar below]

theorem digits?_eq_some_iff {width number : Nat} {chars rest : List Char} :
    digits? width 0 chars = some (number, rest) ↔
      number < 10 ^ width ∧ chars = padded width number ++ rest := by
  induction width generalizing number rest with
  | zero =>
      rw [digits?, padded, List.nil_append, Option.some.injEq, Prod.mk.injEq, Nat.pow_zero,
        Nat.lt_one_iff, eq_comm (a := 0)]
  | succ width ih =>
      rw [digits?_succ, Option.bind_eq_some_iff]
      simp only [Prod.exists, ih, digits?_one_iff]
      constructor
      · rintro ⟨front, _, ⟨small, rfl⟩, digit, below, rfl, rfl⟩
        have high : (10 * front + digit) / 10 = front := by omega
        have low : (10 * front + digit) % 10 = digit := by omega
        refine ⟨by rw [Nat.pow_succ]; omega, ?_⟩
        rw [padded, high, low, List.append_assoc, List.singleton_append]
      · rintro ⟨small, rfl⟩
        refine ⟨number / 10, Nat.digitChar (number % 10) :: rest, ⟨?_, ?_⟩, number % 10, ?_⟩
        · rw [Nat.pow_succ] at small
          omega
        · rw [padded, List.append_assoc, List.singleton_append]
        · exact ⟨Nat.mod_lt _ (by decide), rfl, (Nat.div_add_mod _ _).symm⟩

theorem after?_eq_some_iff {expected : Char} {chars rest : List Char} :
    after? expected chars = some rest ↔ chars = expected :: rest := by
  cases chars with
  | nil => simp [after?]
  | cons char later =>
      simp only [after?]
      split
      · rename_i same
        simp [same]
      · rename_i differs
        simp [differs]

theorem offset?_signed_iff {sign : Char} (signed : sign = '+' ∨ sign = '-') {rest : List Char}
    {minutes : Nat} : offset? (sign :: rest) = some minutes ↔
      ∃ hours late, hours < 10 ^ 2 ∧ late < 10 ^ 2 ∧
        rest = padded 2 hours ++ ':' :: padded 2 late ∧ minutes = 60 * hours + late := by
  have apart : sign ≠ 'Z' := by rcases signed with rfl | rfl <;> decide
  have opens : (sign = '+' || sign = '-') = true := by simpa using signed
  rw [offset?, if_pos opens]
  · simp only [Option.bind_eq_bind, Option.bind_eq_some_iff, Prod.exists, digits?_eq_some_iff,
      after?_eq_some_iff, Option.ite_none_right_eq_some, List.isEmpty_iff, Option.some.injEq]
    constructor
    · rintro ⟨hours, _, ⟨hoursFit, rfl⟩, _, rfl, late, _, ⟨lateFit, rfl⟩, rfl, rfl⟩
      exact ⟨hours, late, hoursFit, lateFit, by rw [List.append_nil], rfl⟩
    · rintro ⟨hours, late, hoursFit, lateFit, rfl, rfl⟩
      exact ⟨hours, _, ⟨hoursFit, rfl⟩, _, rfl, late, [], ⟨lateFit, by rw [List.append_nil]⟩,
        rfl, rfl⟩
  · exact fun zulu _ => apart zulu

theorem offset?_eq_some_iff {chars : List Char} {minutes : Nat} :
    offset? chars = some minutes ↔
      ∃ zone : Zone, zone.Fits ∧ chars = zone.write ∧ minutes = zone.distance := by
  constructor
  · intro read
    cases chars with
    | nil => cases read
    | cons sign rest =>
        by_cases signed : sign = '+' ∨ sign = '-'
        · obtain ⟨hours, late, hoursFit, lateFit, rfl, rfl⟩ := (offset?_signed_iff signed).mp read
          refine ⟨.offset (sign == '-') hours late, ⟨hoursFit, lateFit⟩, ?_, rfl⟩
          rcases signed with rfl | rfl <;> rfl
        · unfold offset? at read
          split at read
          · rename_i whole
            cases whole
            cases read
            exact ⟨.universal, trivial, rfl, rfl⟩
          · rename_i other _ _ whole
            cases whole
            rw [if_neg (by simpa using signed)] at read
            cases read
          · cases read
  · rintro ⟨zone, fits, rfl, rfl⟩
    cases zone with
    | universal => rfl
    | offset west hours late =>
        have signed : (if west then '-' else '+') = '+' ∨ (if west then '-' else '+') = '-' := by
          cases west <;> decide
        exact (offset?_signed_iff signed).mpr ⟨hours, late, fits.1, fits.2, rfl, rfl⟩

theorem exists_fraction_of_skipFraction? {chars rest : List Char}
    (read : skipFraction? chars = some rest) :
    ∃ digits, Fraction digits ∧ chars = writeFraction digits ++ rest := by
  unfold skipFraction? at read
  split at read
  · rename_i later
    have parts := List.takeWhile_append_dropWhile (p := Char.isDigit) (l := later)
    simp only [Option.ite_none_right_eq_some, Bool.and_eq_true, decide_eq_true_eq,
      Option.some.injEq] at read
    obtain ⟨⟨some, short⟩, rfl⟩ := read
    refine ⟨later.takeWhile Char.isDigit, ⟨short, List.all_eq_true.mp List.all_takeWhile⟩, ?_⟩
    cases digits : later.takeWhile Char.isDigit with
    | nil => simp [digits] at some
    | cons digit others =>
        rw [digits] at parts
        rw [writeFraction, List.cons_append, parts]
        exact nofun
  · cases read
    exact ⟨[], ⟨by decide, nofun⟩, rfl⟩

theorem head_write (zone : Zone) : ∃ first rest, zone.write = first :: rest ∧
    first.isDigit = false ∧ first ≠ '.' := by
  cases zone with
  | universal => exact ⟨'Z', [], rfl, by decide, by decide⟩
  | offset west hours late =>
      refine ⟨_, _, rfl, ?_, ?_⟩ <;> cases west <;> decide

theorem skipFraction?_write {digits : List Char} (fraction : Fraction digits) (zone : Zone) :
    skipFraction? (writeFraction digits ++ zone.write) = some zone.write := by
  obtain ⟨first, rest, written, stops, noPoint⟩ := head_write zone
  cases digits with
  | nil =>
      rw [writeFraction, List.nil_append, written, skipFraction?]
      exact fun _ same => noPoint (List.cons.inj same).1
  | cons digit others =>
      have ends : ∀ char, zone.write.head? = some char → char.isDigit = false := by
        rw [written]
        rintro _ ⟨⟩
        exact stops
      have cut := Text.cut_at_stop Char.isDigit fraction.2 ends
      have short : others.length + 1 ≤ 6 := fraction.1
      rw [writeFraction, List.cons_append, skipFraction?, cut.1, cut.2]
      · simp [short]
      · exact nofun

theorem moment?_eq_some_iff {chars : List Char} {moment : Moment} :
    moment? chars = some moment ↔
      ∃ stamp : Stamp, stamp.Fits ∧ chars = stamp.write ∧ moment = stamp.moment := by
  simp only [moment?, Option.bind_eq_bind, Option.bind_eq_some_iff, Prod.exists,
    digits?_eq_some_iff, after?_eq_some_iff, offset?_eq_some_iff, Option.some.injEq]
  constructor
  · rintro ⟨year, _, ⟨yearFits, rfl⟩, _, rfl, month, _, ⟨monthFits, rfl⟩, _, rfl,
      day, _, ⟨dayFits, rfl⟩, _, rfl, hour, _, ⟨hourFits, rfl⟩, _, rfl,
      minute, _, ⟨minuteFits, rfl⟩, _, rfl, second, rest, ⟨secondFits, rfl⟩,
      _, skipped, _, ⟨zone, zoneFits, rfl, rfl⟩, rfl⟩
    obtain ⟨digits, fraction, rfl⟩ := exists_fraction_of_skipFraction? skipped
    exact ⟨⟨year, month, day, hour, minute, second, digits, zone⟩, ⟨yearFits, monthFits, dayFits,
      hourFits, minuteFits, secondFits, fraction, zoneFits⟩, rfl, rfl⟩
  · rintro ⟨stamp, fits, rfl, rfl⟩
    exact ⟨stamp.year, _, ⟨fits.year, rfl⟩, _, rfl, stamp.month, _, ⟨fits.month, rfl⟩, _, rfl,
      stamp.day, _, ⟨fits.day, rfl⟩, _, rfl, stamp.hour, _, ⟨fits.hour, rfl⟩, _, rfl,
      stamp.minute, _, ⟨fits.minute, rfl⟩, _, rfl, stamp.second, _, ⟨fits.second, rfl⟩,
      _, skipFraction?_write fits.fraction stamp.zone, _, ⟨stamp.zone, fits.zone, rfl, rfl⟩, rfl⟩

theorem isLeap_iff {year : Nat} : isLeap year = true ↔ Leap year := by
  simp only [isLeap, Leap, Bool.and_eq_true, Bool.or_eq_true, beq_iff_eq, bne_iff_ne, ne_eq]
  omega

theorem monthLengths_getElem? {year month : Nat} (first : 1 ≤ month) (last : month ≤ 12) :
    (monthLengths year)[month - 1]? = some (daysIn year month) := by
  have february : (if Leap year then 29 else 28) = if isLeap year then 29 else 28 := by
    simp only [isLeap_iff]
  rw [monthLengths, february]
  interval_cases month <;> rfl

theorem daysIn_le (year month : Nat) : daysIn year month ≤ 31 := by
  unfold daysIn
  repeat' split
  all_goals decide

theorem valid_iff {stamp : Stamp} :
    stamp.Valid ↔ stamp.Fits ∧ stamp.moment.isValid = true := by
  simp only [Moment.isValid, Bool.and_eq_true, decide_eq_true_eq]
  constructor
  · intro valid
    obtain ⟨firstDay, length, found, lastDay⟩ := valid.day
    rw [monthLengths_getElem? valid.month.1 valid.month.2, Option.some.injEq] at found
    have short := daysIn_le stamp.year stamp.month
    have year := valid.year
    have month := valid.month
    have hour := valid.hour
    have minute := valid.minute
    have second := valid.second
    refine ⟨⟨by omega, by omega, by omega, by omega, by omega, by omega, valid.fraction,
      valid.zone.1⟩, ?_⟩
    exact ⟨⟨⟨⟨⟨⟨⟨⟨year.1, month.1⟩, month.2⟩, firstDay⟩, found ▸ lastDay⟩, hour⟩, minute⟩, second⟩,
      valid.zone.2⟩
  · rintro ⟨fits, ⟨⟨⟨⟨⟨⟨⟨⟨firstYear, firstMonth⟩, lastMonth⟩, firstDay⟩, lastDay⟩, hour⟩, minute⟩,
      second⟩, distance⟩⟩
    have lastYear : stamp.year ≤ 9999 := Nat.le_of_lt_succ fits.year
    exact ⟨⟨firstYear, lastYear⟩, ⟨firstMonth, lastMonth⟩,
      ⟨firstDay, _, monthLengths_getElem? firstMonth lastMonth, lastDay⟩, hour, minute, second,
      fits.fraction, fits.zone, distance⟩

/-- The texts that are read as date-times are those that are written from valid ones. -/
theorem accepts_iff {chars : List Char} :
    accepts chars = true ↔ ∃ stamp : Stamp, stamp.Valid ∧ chars = stamp.write := by
  have read : accepts chars = true ↔
      ∃ moment, moment? chars = some moment ∧ moment.isValid = true := by
    unfold accepts
    cases moment? chars <;> simp
  simp only [read, moment?_eq_some_iff, valid_iff]
  constructor
  · rintro ⟨_, ⟨stamp, fits, written, rfl⟩, valid⟩
    exact ⟨stamp, ⟨fits, valid⟩, written⟩
  · rintro ⟨stamp, ⟨fits, valid⟩, written⟩
    exact ⟨stamp.moment, ⟨stamp, fits, written, rfl⟩, valid⟩

section Ascii

def Ascii (chars : List Char) : Prop := ∀ char ∈ chars, char.toNat < 128

theorem ascii_append {first second : List Char} :
    Ascii (first ++ second) ↔ Ascii first ∧ Ascii second := List.forall_mem_append

theorem ascii_cons {char : Char} {rest : List Char} :
    Ascii (char :: rest) ↔ char.toNat < 128 ∧ Ascii rest := List.forall_mem_cons

theorem digitChar_lt {digit : Nat} (below : digit < 10) : (Nat.digitChar digit).toNat < 128 := by
  have table : ∀ digit < 10, (Nat.digitChar digit).toNat < 128 := by decide
  exact table digit below

theorem ascii_padded (width number : Nat) : Ascii (padded width number) := by
  induction width generalizing number with
  | zero => nofun
  | succ width ih =>
      have last := digitChar_lt (Nat.mod_lt number (by decide : 0 < 10))
      exact ascii_append.mpr ⟨ih _, ascii_cons.mpr ⟨last, nofun⟩⟩

theorem ascii_writeFraction {digits : List Char} (fraction : Fraction digits) :
    Ascii (writeFraction digits) := by
  have each : Ascii digits := by
    intro char member
    obtain ⟨digit, below, rfl⟩ := isDigit_iff.mp (fraction.2 char member)
    exact digitChar_lt below
  cases digits with
  | nil => exact each
  | cons digit others => exact ascii_cons.mpr ⟨by decide, each⟩

theorem ascii_write {stamp : Stamp} (fraction : Fraction stamp.fraction) : Ascii stamp.write := by
  have zone : Ascii stamp.zone.write := by
    cases stamp.zone with
    | universal => exact ascii_cons.mpr ⟨by decide, nofun⟩
    | offset west hours late =>
        simp only [Zone.write, ascii_cons, ascii_append, ascii_padded, true_and, and_true]
        cases west <;> decide
  simp only [Stamp.write, ascii_append, ascii_cons, ascii_padded, ascii_writeFraction fraction,
    zone, true_and, and_true]
  decide

end Ascii

end DateTime

/-- A text is a date-time just if it is written from the fields of one: a year from 1 to 9999, a
month, a day of that month, a time of day, at most six digits of a fraction, and universal time or
an offset of less than a day, whose minutes may be any two digits. Such a text is in ASCII. -/
theorem date_times_are_written_moments (text : String) :
    ((Value.text text : Value).isDateTime = true ↔
      ∃ stamp : DateTime.Stamp, stamp.Valid ∧ text.toList = stamp.write) ∧
    ((Value.text text : Value).isDateTime = true → ∀ char ∈ text.toList, char.toNat < 128) := by
  have written : (Value.text text : Value).isDateTime = true ↔
      ∃ stamp : DateTime.Stamp, stamp.Valid ∧ text.toList = stamp.write := DateTime.accepts_iff
  refine ⟨written, fun accepted => ?_⟩
  obtain ⟨stamp, valid, same⟩ := written.mp accepted
  rw [same]
  exact DateTime.ascii_write valid.fraction

end RecordCheck
