import Mathlib.Data.Rat.Floor
import SqlDialect.Value.Cell

/-!
# The numbers that are read from values

A value of an integer type or a decimal type holds a number.  The number that is read from it
into another type is the number that it holds, with one exception: a decimal that is declared
without places is cut off at its point when it is read as a 64-bit integer, whatever places it
has.
-/

namespace SqlDialect

/-! ## Numbers -/

/-- The number that a decimal is. -/
def Decimal.number (d : Decimal) : ℚ :=
  d.mantissa / 10 ^ d.places

/-- The number held by a value of an integer type or a decimal type. -/
def Value.number? : Value → Option ℚ
  | smallint content => content.map fun n => n.toInt
  | integer content => content.map fun n => n.toInt
  | bigint content => content.map fun n => n.toInt
  | decimal content _ _ => content.map Decimal.number
  | _ => none

@[simp]
theorem Decimal.number_ofInt64 (n : Int64) :
  (ofInt64 n).number = n.toInt
  := by
  have hmantissa : (ofInt64 n).mantissa = n.toInt := by
    rw [mantissa, ofInt64]
    grind
  rw [number, hmantissa]
  simp [ofInt64]

/-- What stands before the point is the number without its fraction. -/
theorem Decimal.truncate_eq (d : Decimal) :
  d.truncate = if 0 ≤ d.number then ⌊d.number⌋ else ⌈d.number⌉
  := by
  have hnumber : d.number = (d.mantissa : ℚ) / ((10 ^ d.places : ℕ) : ℚ) := by simp [number]
  have hpower : (0 : ℚ) < ((10 ^ d.places : ℕ) : ℚ) := by positivity
  have hsign : 0 ≤ d.number ↔ 0 ≤ d.mantissa := by
    rw [hnumber, le_div_iff₀ hpower, zero_mul, Int.cast_nonneg_iff]
  have htruncate : d.truncate = d.mantissa.tdiv (10 ^ d.places : ℕ) := by simp [truncate]
  split
  next h =>
    rw [htruncate, hnumber, Rat.floor_intCast_div_natCast,
      Int.tdiv_eq_ediv_of_nonneg (hsign.mp h)]
  next h =>
    rw [hsign] at h
    rw [htruncate, hnumber, Rat.ceil_intCast_div_natCast, ← Int.tdiv_eq_ediv_of_nonneg (by omega),
      Int.neg_tdiv, neg_neg]

/-- A decimal that is an integer has nothing behind its point. -/
theorem Decimal.number_eq_truncate_iff (d : Decimal) :
  d.number = d.truncate ↔ ∃ n : Int, d.number = n
  := by
  constructor
  · intro h
    use d.truncate, h
  · rintro ⟨n, hn⟩
    rw [truncate_eq, hn]
    simp

/-- What stands before the point fits into 64 bits. -/
theorem Decimal.truncate_fits_iff (d : Decimal) :
  (-2 ^ 63 ≤ d.truncate ∧ d.truncate < 2 ^ 63) ↔ (-2 ^ 63 - 1 < d.number ∧ d.number < 2 ^ 63)
  := by
  rw [truncate_eq]
  split
  next h =>
    have hfloor := Int.floor_nonneg.mpr h
    have hmax : ⌊d.number⌋ < 2 ^ 63 ↔ d.number < 2 ^ 63 := by
      rw [Int.floor_lt]
      norm_cast
    rw [hmax]
    constructor
    · rintro ⟨-, hlt⟩
      exact ⟨by linarith, hlt⟩
    · rintro ⟨-, hlt⟩
      exact ⟨by omega, hlt⟩
  next h =>
    have hceil : ⌈d.number⌉ ≤ 0 := Int.ceil_nonpos.mpr (le_of_not_ge h)
    have hmin : -2 ^ 63 ≤ ⌈d.number⌉ ↔ -2 ^ 63 - 1 < d.number := by
      rw [← Int.sub_one_lt_iff, Int.lt_ceil]
      norm_cast
    rw [hmin]
    constructor
    · rintro ⟨hgt, -⟩
      exact ⟨hgt, by linarith⟩
    · rintro ⟨hgt, -⟩
      exact ⟨hgt, by omega⟩

/-- The values that hold an integer. -/
theorem Value.integer?_cases {v : Value} {n : Int} (h : v.integer? = some n) :
  (∃ m, v = .smallint (some m) ∧ m.toInt = n) ∨ (∃ m, v = .integer (some m) ∧ m.toInt = n)
    ∨ ∃ m, v = .bigint (some m) ∧ m.toInt = n
  := by
  cases v with
  | smallint content => simpa [integer?] using h
  | integer content => simpa [integer?] using h
  | bigint content => simpa [integer?] using h
  | _ => cases h

theorem Value.number?_of_integer? {v : Value} {n : Int} (h : v.integer? = some n) :
  v.number? = some (n : ℚ)
  := by
  obtain ⟨m, rfl, rfl⟩ | ⟨m, rfl, rfl⟩ | ⟨m, rfl, rfl⟩ := integer?_cases h <;> rfl

/-- Nothing is held by a null value. -/
theorem Value.number?_of_isNull {v : Value} (h : v.isNull) :
  v.number? = none
  := by
  cases v with
  | smallint content =>
    obtain rfl := Option.isNone_iff_eq_none.mp h
    rfl
  | integer content =>
    obtain rfl := Option.isNone_iff_eq_none.mp h
    rfl
  | bigint content =>
    obtain rfl := Option.isNone_iff_eq_none.mp h
    rfl
  | decimal content precision scale =>
    obtain rfl := Option.isNone_iff_eq_none.mp h
    rfl
  | _ => rfl

/-! ## Narrowing -/

theorem narrowToInt32_eq_ok_iff {n : Int64} {m : Int32} :
  narrowToInt32 n = .ok m ↔ m.toInt = n.toInt
  := by
  have hmin := m.le_toInt
  have hmax := m.toInt_lt
  have hbounds := And.intro Int32.toInt_minValue Int32.toInt_maxValue
  rw [narrowToInt32]
  split
  · simp only [reduceCtorEq, false_iff]
    omega
  split
  · simp only [reduceCtorEq, false_iff]
    omega
  · have hfits : n.toInt32.toInt = n.toInt := by
      rw [Int64.toInt_toInt32]
      apply Int.bmod_eq_of_le_mul_two <;> omega
    rw [Except.ok.injEq, ← hfits, Int32.toInt_inj, eq_comm]

/-- A 64-bit integer is read from a decimal by cutting it off at the point. -/
theorem narrowToInt64_eq_ok_iff {d : Decimal} {n : Int64} :
  narrowToInt64 d = .ok n ↔ n.toInt = d.truncate
  := by
  have hmin := n.le_toInt
  have hmax := n.toInt_lt
  rw [narrowToInt64, Int64.toInt_minValue, Int64.toInt_maxValue]
  split
  next h =>
    rw [Except.ok.injEq, ← Int64.toInt_inj, Int64.toInt_ofInt_of_le h.1 (by omega), eq_comm]
  next h =>
    simp only [reduceCtorEq, false_iff]
    omega

theorem exists_int32_iff {n : Int} :
  (∃ x : Int32, x.toInt = n) ↔ -2 ^ 31 ≤ n ∧ n < 2 ^ 31
  := by
  constructor
  · rintro ⟨x, rfl⟩
    exact ⟨x.le_toInt, x.toInt_lt⟩
  · rintro ⟨hmin, hmax⟩
    exact ⟨.ofInt n, Int32.toInt_ofInt_of_le hmin hmax⟩

theorem exists_int64_iff {n : Int} :
  (∃ x : Int64, x.toInt = n) ↔ -2 ^ 63 ≤ n ∧ n < 2 ^ 63
  := by
  constructor
  · rintro ⟨x, rfl⟩
    exact ⟨x.le_toInt, x.toInt_lt⟩
  · rintro ⟨hmin, hmax⟩
    exact ⟨.ofInt n, Int64.toInt_ofInt_of_le hmin hmax⟩

/-! ## Integers -/

/-- What is read from a value that holds the integer `n`. -/
structure IntegerReadings (v : Value) (n : Int) : Prop where
  int64 : ∃ x : Int64, Cell.read v = .ok x ∧ x.toInt = n
  decimal : ∃ d : Decimal, Cell.read v = .ok d ∧ d.number = n
  int32 : ∀ x : Int32, Cell.read v = .ok x → x.toInt = n
  int32_fails : (∃ fault, (Cell.read v : Except ReadError Int32) = .error fault)
    ↔ n < -2 ^ 31 ∨ 2 ^ 31 - 1 < n
  boolean : Cell.read v = .ok (decide (n ≠ 0))

section

variable {v : Value} {n : Int} (h : v.integer? = some n)
include h

/-- An integer is read as the same 64-bit integer and as the same decimal. -/
theorem read_integer :
  ∃ x : Int64, x.toInt = n ∧ Cell.read v = .ok x ∧ Cell.read v = .ok (Decimal.ofInt64 x)
  := by
  obtain ⟨m, rfl, rfl⟩ | ⟨m, rfl, rfl⟩ | ⟨m, rfl, rfl⟩ := Value.integer?_cases h
  · exact ⟨m.toInt64, m.toInt_toInt64, rfl, rfl⟩
  · exact ⟨m.toInt64, m.toInt_toInt64, rfl, rfl⟩
  · exact ⟨m, rfl, rfl, rfl⟩

/-- An integer is read as the 32-bit integer that it is. -/
theorem read_int32_eq_ok_iff (x : Int32) :
  Cell.read v = .ok x ↔ x.toInt = n
  := by
  obtain ⟨m, rfl, rfl⟩ | ⟨m, rfl, rfl⟩ | ⟨m, rfl, rfl⟩ := Value.integer?_cases h
  · change Except.ok m.toInt32 = Except.ok x ↔ _
    rw [Except.ok.injEq, ← Int32.toInt_inj, m.toInt_toInt32, eq_comm]
  · change Except.ok m = Except.ok x ↔ _
    rw [Except.ok.injEq, ← Int32.toInt_inj, eq_comm]
  · apply narrowToInt32_eq_ok_iff

/-- An integer is true when it is not zero. -/
theorem read_integer_boolean :
  Cell.read v = .ok (decide (n ≠ 0))
  := by
  obtain ⟨m, rfl, rfl⟩ | ⟨m, rfl, rfl⟩ | ⟨m, rfl, rfl⟩ := Value.integer?_cases h
  · change Except.ok (decide (m ≠ 0)) = _
    simp [← Int16.toInt_inj]
  · change Except.ok (decide (m ≠ 0)) = _
    simp [← Int32.toInt_inj]
  · change Except.ok (decide (m ≠ 0)) = _
    simp [← Int64.toInt_inj]

/-- The readings of an integer agree with each other. -/
theorem integerReadings :
  IntegerReadings v n
  := by
  obtain ⟨x, hx, hint64, hdecimal⟩ := read_integer h
  have hint32 := read_int32_eq_ok_iff h
  constructor
  · exact ⟨x, hint64, hx⟩
  · use .ofInt64 x, hdecimal
    rw [Decimal.number_ofInt64, hx]
  · intro y hy
    apply (hint32 y).mp hy
  · have hfits := @exists_int32_iff n
    simp only [← hint32] at hfits
    cases hread : (Cell.read v : Except ReadError Int32) with
    | ok y =>
      have hy := hfits.mp ⟨y, hread⟩
      simp only [reduceCtorEq, exists_false, false_iff]
      omega
    | error fault =>
      have hnone : ¬ (-2 ^ 31 ≤ n ∧ n < 2 ^ 31) := by
        rw [← hfits, hread]
        simp
      simp only [Except.error.injEq, exists_eq', true_iff]
      omega
  · apply read_integer_boolean h

end

/-! ## Numbers of any kind -/

/-- Whatever number is read from the value is the number that it holds, and nothing is read only
when it holds none. -/
structure ReadsExactly {α : Type} [Cell α] (number : α → ℚ) (v : Value) : Prop where
  present : ∀ x : α, Cell.read v = .ok x → v.number? = some (number x)
  optional : ∀ x : Option α, Cell.read v = .ok x → v.number? = x.map number

theorem ReadsExactly.of_present {α : Type} [Cell α] {number : α → ℚ} {v : Value}
    (h : ∀ x : α, Cell.read v = .ok x → v.number? = some (number x)) :
  ReadsExactly number v
  where
  present := h
  optional := by
    intro x hx
    change (if v.isNull then _ else _) = _ at hx
    split at hx
    next hnull =>
      cases hx
      apply Value.number?_of_isNull hnull
    next =>
      cases hread : (Cell.read v : Except ReadError α) with
      | ok y =>
        rw [hread] at hx
        cases hx
        apply h y hread
      | error fault =>
        rw [hread] at hx
        cases hx

/-- The decimal is no integer, and what stands before its point fits into 64 bits. -/
def Decimal.Cut (d : Decimal) : Prop :=
  (∀ n : Int, d.number ≠ n) ∧ -2 ^ 63 - 1 < d.number ∧ d.number < 2 ^ 63

/-- From a value that holds no number none is read. -/
theorem read_ne_ok_of_number? {v : Value} (h : v.number? = none) :
  (∀ x : Int16, Cell.read v ≠ .ok x) ∧ (∀ x : Int32, Cell.read v ≠ .ok x)
    ∧ (∀ x : Int64, Cell.read v ≠ .ok x) ∧ ∀ x : Decimal, Cell.read v ≠ .ok x
  := by
  cases v with
  | smallint content =>
    obtain rfl := Option.map_eq_none_iff.mp h
    exact ⟨nofun, nofun, nofun, nofun⟩
  | integer content =>
    obtain rfl := Option.map_eq_none_iff.mp h
    exact ⟨nofun, nofun, nofun, nofun⟩
  | bigint content =>
    obtain rfl := Option.map_eq_none_iff.mp h
    exact ⟨nofun, nofun, nofun, nofun⟩
  | decimal content precision scale =>
    obtain rfl := Option.map_eq_none_iff.mp h
    exact ⟨nofun, nofun, nofun, nofun⟩
  | _ => exact ⟨nofun, nofun, nofun, nofun⟩

/-- A value that holds a number holds an integer or a decimal. -/
theorem Value.number?_cases (v : Value) :
  v.number? = none ∨ (∃ n, v.integer? = some n)
    ∨ ∃ d precision scale, v = .decimal (some d) precision scale
  := by
  cases v with
  | smallint content => cases content <;> simp [number?, integer?]
  | integer content => cases content <;> simp [number?, integer?]
  | bigint content => cases content <;> simp [number?, integer?]
  | decimal content precision scale => cases content <;> simp [number?]
  | _ => simp [number?]

theorem readsExactly_int16 (v : Value) :
  ReadsExactly (fun n : Int16 => (n.toInt : ℚ)) v
  := by
  apply ReadsExactly.of_present
  intro x hx
  cases v with
  | smallint content =>
    cases content with
    | some n =>
      cases hx
      rfl
    | none => cases hx
  | _ => cases hx

theorem readsExactly_int32 (v : Value) :
  ReadsExactly (fun n : Int32 => (n.toInt : ℚ)) v
  := by
  apply ReadsExactly.of_present
  intro x hx
  obtain h | ⟨n, hn⟩ | ⟨d, precision, scale, rfl⟩ := v.number?_cases
  · cases (read_ne_ok_of_number? h).2.1 x hx
  · rw [Value.number?_of_integer? hn, (integerReadings hn).int32 x hx]
  · cases hx

theorem readsExactly_decimal (v : Value) :
  ReadsExactly Decimal.number v
  := by
  apply ReadsExactly.of_present
  intro x hx
  obtain h | ⟨n, hn⟩ | ⟨d, precision, scale, rfl⟩ := v.number?_cases
  · cases (read_ne_ok_of_number? h).2.2.2 x hx
  · obtain ⟨y, hy, hnumber⟩ := (integerReadings hn).decimal
    obtain rfl := Except.ok.inj (hy.symm.trans hx)
    rw [Value.number?_of_integer? hn, hnumber]
  · cases hx
    rfl

/-- A decimal that is declared without places is read exactly as a 64-bit integer unless it is cut
off. -/
theorem Decimal.readsExactly_int64_iff (d : Decimal) (precision : UInt8) :
  ReadsExactly (fun n : Int64 => (n.toInt : ℚ)) (.decimal (some d) precision 0) ↔ ¬ d.Cut
  := by
  have hread : ∀ x : Int64, Cell.read (.decimal (some d) precision 0) = .ok x
      ↔ x.toInt = d.truncate := fun x => narrowToInt64_eq_ok_iff
  constructor
  · rintro h ⟨hfraction, hfits⟩
    obtain ⟨x, hx⟩ := exists_int64_iff.mpr (d.truncate_fits_iff.mpr hfits)
    apply hfraction x.toInt
    apply Option.some.inj (h.present x ((hread x).mpr hx))
  · intro h
    apply ReadsExactly.of_present
    intro x hx
    have htruncate := (hread x).mp hx
    have hnumber : d.number = d.truncate := by
      rw [d.number_eq_truncate_iff]
      by_contra hfraction
      rw [not_exists] at hfraction
      apply h ⟨hfraction, d.truncate_fits_iff.mp (exists_int64_iff.mp ⟨x, htruncate⟩)⟩
    rw [htruncate, ← hnumber]
    rfl

theorem readsExactly_int64_iff (v : Value) :
  ReadsExactly (fun n : Int64 => (n.toInt : ℚ)) v
    ↔ ∀ d precision, v = .decimal (some d) precision 0 → ¬ d.Cut
  := by
  constructor
  · rintro h d precision rfl
    apply (d.readsExactly_int64_iff precision).mp h
  · intro hcut
    by_cases hcase : ∃ d precision, v = .decimal (some d) precision 0
    · obtain ⟨d, precision, rfl⟩ := hcase
      apply (d.readsExactly_int64_iff precision).mpr (hcut d precision rfl)
    · apply ReadsExactly.of_present
      intro x hx
      obtain h | ⟨n, hn⟩ | ⟨d, precision, scale, rfl⟩ := v.number?_cases
      · cases (read_ne_ok_of_number? h).2.2.1 x hx
      · obtain ⟨y, hy, hnumber⟩ := (integerReadings hn).int64
        obtain rfl := Except.ok.inj (hy.symm.trans hx)
        rw [Value.number?_of_integer? hn, hnumber]
      · -- A decimal that is declared with places is refused.
        have hscale : scale ≠ 0 := by
          rintro rfl
          apply hcase ⟨d, precision, rfl⟩
        change (if scale = 0 then narrowToInt64 d else _) = _ at hx
        rw [if_neg hscale] at hx
        cases hx

/-- A number that is read from a value is the number that the value holds, and so is one that may be
absent; an integer is read alike as a 32-bit or 64-bit integer, as a decimal and as whether it is
zero.  The exception is a decimal with a fraction that is declared without places, as one that was
made from a decimal always is: it is read as a 64-bit integer where what stands before its point
fits. -/
theorem readings_exact_iff (v : Value) :
  ReadsExactly (fun n : Int16 => (n.toInt : ℚ)) v
    ∧ ReadsExactly (fun n : Int32 => (n.toInt : ℚ)) v
    ∧ ReadsExactly Decimal.number v
    ∧ (ReadsExactly (fun n : Int64 => (n.toInt : ℚ)) v
      ↔ ∀ d precision, v = .decimal (some d) precision 0 → ¬ d.Cut)
    ∧ (∀ n, v.integer? = some n → IntegerReadings v n)
    ∧ ∀ d : Decimal, v = Cell.toValue d →
      (ReadsExactly (fun n : Int64 => (n.toInt : ℚ)) v ↔ ¬ d.Cut)
  := by
  refine ⟨readsExactly_int16 v, readsExactly_int32 v, readsExactly_decimal v,
    readsExactly_int64_iff v, ?_, ?_⟩
  · intro n hn
    apply integerReadings hn
  · rintro d rfl
    apply d.readsExactly_int64_iff

/-- Two and a half. -/
def Decimal.twoAndAHalf : Decimal where
  isNegative := false
  magnitude := 25
  places := 1
  magnitude_lt := by decide
  places_le := by decide

theorem readings_exact_iff_twoAndAHalf :
  ¬ ReadsExactly (fun n : Int64 => (n.toInt : ℚ)) (Cell.toValue Decimal.twoAndAHalf)
    ∧ IntegerReadings (.bigint (some 2500000000)) 2500000000
  := by
  obtain ⟨-, -, -, -, -, hdecimal⟩ := readings_exact_iff (Cell.toValue Decimal.twoAndAHalf)
  obtain ⟨-, -, -, -, hinteger, -⟩ := readings_exact_iff (.bigint (some 2500000000))
  constructor
  · rw [hdecimal _ rfl, not_not]
    refine ⟨?_, ?_⟩
    · intro n hn
      have hhalf : (5 : ℚ) / 2 = n := by
        rw [← hn]
        norm_num [Decimal.number, Decimal.mantissa, Decimal.twoAndAHalf]
      have hwhole : (5 : ℚ) = (n * 2 : Int) := by
        push_cast
        linarith
      have hodd : (5 : Int) = n * 2 := by exact_mod_cast hwhole
      omega
    · norm_num [Decimal.number, Decimal.mantissa, Decimal.twoAndAHalf]
  · apply hinteger
    rfl

/-- A decimal is cut off at its point when it is read as a 64-bit integer. -/
theorem twoAndAHalf_read_as_two :
  Cell.read (Cell.toValue Decimal.twoAndAHalf) = .ok (2 : Int64)
    ∧ Decimal.twoAndAHalf.number ≠ (2 : Int64).toInt
  := by
  constructor
  · decide +kernel
  · have htwo : (2 : Int64).toInt = 2 := by decide
    rw [htwo]
    norm_num [Decimal.number, Decimal.mantissa, Decimal.twoAndAHalf]

end SqlDialect
