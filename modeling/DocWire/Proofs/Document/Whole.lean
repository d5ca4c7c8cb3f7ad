import DocWire.Document.Whole
import Mathlib.Algebra.Group.Nat.Defs

/-! Whole numbers in doubles: a number from two up to the last that every double tells apart is held
by one double only. -/

namespace DocWire

/-- The parts of a double with a hidden bit are the double itself. -/
theorem doubleParts?_eq_some {bits : UInt64} {negative : Bool} {mantissa : Nat} {exponent : Int}
    (found : doubleParts? bits = some (negative, mantissa, exponent)) :
    (mantissa < 2 ^ 52 ∧ exponent = -1074) ∨
      (2 ^ 52 ≤ mantissa ∧ mantissa < 2 ^ 53 ∧ -1074 ≤ exponent ∧
        bits.toNat = (if negative then 2 ^ 63 else 0) + (exponent + 1074).toNat * 2 ^ 52
          + mantissa) := by
  have bound := bits.toNat_lt
  simp only [doubleParts?, Nat.pow_eq] at found
  split at found
  · cases found
  · split at found
    · -- The least exponent stands for numbers without a hidden bit.
      cases found
      refine .inl ⟨Nat.mod_lt _ (by decide), rfl⟩
    · simp only [Option.some.injEq, Prod.mk.injEq] at found
      obtain ⟨sign, rfl, rfl⟩ := found
      refine .inr ⟨by omega, by omega, by omega, ?_⟩
      by_cases minus : bits.toNat / 2 ^ 63 = 1
      · simp only [minus, beq_self_eq_true] at sign
        subst sign
        simp only [if_true]
        omega
      · have plus : negative = false := by
          rw [← sign]
          simpa using minus
        subst plus
        simp only [Bool.false_eq_true, if_false]
        omega

/-- A double without a sign is taken apart into what it was put together from. -/
theorem doubleParts?_of_toNat {bits : UInt64} {mantissa scale : Nat} (low : 2 ^ 52 ≤ mantissa)
    (high : mantissa < 2 ^ 53) (finite : scale < 2046)
    (same : bits.toNat = scale * 2 ^ 52 + mantissa) :
    doubleParts? bits = some (false, mantissa, (scale : Int) - 1074) := by
  -- The three parts of the bits, each read off the sum.
  have exponent : bits.toNat / 2 ^ 52 % 2 ^ 11 = scale + 1 := by omega
  have fraction : bits.toNat % 2 ^ 52 + 2 ^ 52 = mantissa := by omega
  have sign : (bits.toNat / 2 ^ 63 == 1) = false := by
    rw [beq_eq_false_iff_ne]
    omega
  simp only [doubleParts?, Nat.pow_eq, exponent, fraction, sign]
  rw [if_neg (by omega), if_neg (by omega)]
  simp only [Option.some.injEq, Prod.mk.injEq, true_and]
  omega

/-- Each place that a number is moved by makes it at least twice as great. -/
theorem two_mul_scaled (n : Nat) {less more : Nat} (further : less < more) :
    2 * (n * 2 ^ less) ≤ n * 2 ^ more := by
  have powers : 2 ^ (less + 1) ≤ 2 ^ more := Nat.pow_le_pow_right (by decide) further
  have scaled := Nat.mul_le_mul_left n powers
  rwa [Nat.pow_succ, ← Nat.mul_assoc, Nat.mul_comm _ 2] at scaled

/-- What is moved by as many places as a significand has, or more, has no whole part left. -/
theorem wholePart?_below {mantissa places n : Nat} (many : 52 ≤ places) (fits : mantissa < 2 ^ 52)
    (found : wholePart? mantissa (-(places : Int)) = some n) : n = 0 := by
  have powers : 2 ^ 52 ≤ 2 ^ places := Nat.pow_le_pow_right (by decide) many
  -- More places are cut off than the number has.
  have nothing : mantissa / 2 ^ places = 0 := Nat.div_eq_of_lt (Nat.lt_of_lt_of_le fits powers)
  unfold wholePart? at found
  rw [if_neg (by omega)] at found
  simp only [Int.neg_neg, Int.toNat_natCast, Nat.pow_eq, nothing] at found
  split at found
  · exact (Option.some.inj found).symm
  · cases found

section Scaled

variable {n scale : Nat} (low : 2 ^ 52 ≤ n * 2 ^ scale) (high : n * 2 ^ scale < 2 ^ 53)
  (short : scale ≤ 51)

include low high short

/-- Nothing is lost of a whole number that was scaled up. -/
theorem wholePart?_scaled : wholePart? (n * 2 ^ scale) (-(scale : Int)) = some n := by
  unfold wholePart?
  -- What was scaled up is scaled down again, with nothing cut off.
  cases scale with
  | zero => simp
  | succ less =>
    rw [if_neg (by omega)]
    simp only [Int.neg_neg, Int.toNat_natCast, Nat.pow_eq, Nat.mul_mod_left, Nat.zero_mul,
      Nat.zero_le, if_true]
    rw [Nat.mul_div_cancel _ (Nat.two_pow_pos _)]

/-- A significand of full length holds a whole number at one scale only, and then exactly. -/
theorem eq_of_wholePart? {mantissa : Nat} {exponent : Int} (long : 2 ^ 52 ≤ mantissa)
    (fits : mantissa < 2 ^ 53) (found : wholePart? mantissa exponent = some n) :
    exponent = -(scale : Int) ∧ mantissa = n * 2 ^ scale := by
  unfold wholePart? at found
  simp only [Nat.pow_eq] at found
  by_cases large : 0 ≤ exponent
  · rw [if_pos large] at found
    have product : mantissa * 2 ^ exponent.toNat = n := Option.some.inj found
    -- A number of full length is neither scaled up nor down.
    have unmoved : exponent.toNat = 0 := by
      rcases Nat.eq_zero_or_pos exponent.toNat with zero | moved
      · exact zero
      · have twice := two_mul_scaled mantissa moved
        have grown := Nat.le_mul_of_pos_right n (Nat.two_pow_pos scale)
        omega
    rw [unmoved, Nat.pow_zero, Nat.mul_one] at product
    have unscaled : scale = 0 := by
      rcases Nat.eq_zero_or_pos scale with zero | scaled
      · exact zero
      · have twice := two_mul_scaled n scaled
        omega
    subst unscaled
    exact ⟨by omega, by rw [product, Nat.pow_zero, Nat.mul_one]⟩
  · rw [if_neg large] at found
    obtain ⟨places, rfl⟩ : ∃ places : Nat, exponent = -(places : Int) :=
      ⟨(-exponent).toNat, by omega⟩
    rw [Int.neg_neg, Int.toNat_natCast] at found
    split at found
    · rename_i close
      have quotient : mantissa / 2 ^ places = n := Option.some.inj found
      have whole := Nat.div_add_mod mantissa (2 ^ places)
      rw [quotient, Nat.mul_comm] at whole
      -- The number would be too long if more places were cut off than it was scaled by.
      have few : places ≤ scale := by
        rcases Nat.lt_or_ge scale places with many | few
        · have twice := two_mul_scaled n many
          omega
        · exact few
      have exact : mantissa % 2 ^ places = 0 := by
        have small : 2 ^ places ≤ 2 ^ 51 := Nat.pow_le_pow_right (by decide) (by omega)
        omega
      have all : places = scale := by
        rcases Nat.lt_or_eq_of_le few with fewer | all
        · have twice := two_mul_scaled n fewer
          omega
        · exact all
      subst all
      exact ⟨rfl, by omega⟩
    · cases found

end Scaled

/-- A double holds a whole number of two or more just when it is that number, scaled to a
significand of full length. -/
theorem wholeOfDouble?_eq_some {bits : UInt64} {n scale : Nat} (low : 2 ^ 52 ≤ n * 2 ^ scale)
    (high : n * 2 ^ scale < 2 ^ 53) (short : scale ≤ 51) :
    wholeOfDouble? bits = some (Int64.ofNat n) ↔
      bits.toNat = (1074 - scale) * 2 ^ 52 + n * 2 ^ scale := by
  refine ⟨?_, ?_⟩
  · intro whole
    unfold wholeOfDouble? at whole
    obtain ⟨⟨negative, mantissa, exponent⟩, parts, whole⟩ := Option.bind_eq_some_iff.mp whole
    obtain ⟨magnitude, part, whole⟩ := Option.bind_eq_some_iff.mp whole
    have below : n < 2 ^ 53 := by
      have grown := Nat.le_mul_of_pos_right n (Nat.two_pow_pos scale)
      omega
    have value : (Int64.ofNat n).toInt = n := Int64.toInt_ofNat_of_lt (by omega)
    have positive : 0 < n := by
      rcases Nat.eq_zero_or_pos n with rfl | positive
      · omega
      · exact positive
    -- With a sign, the number would be a negative one.
    obtain ⟨plus, same⟩ : negative = false ∧ magnitude = n := by
      simp only [Nat.pow_eq] at whole
      split at whole
      · cases whole
      · split at whole
        · have same := congrArg Int64.toInt (Option.some.inj whole)
          rw [value, Int64.toInt_ofInt_of_le (by omega) (by omega)] at same
          omega
        · rename_i plus
          have same := congrArg Int64.toInt (Option.some.inj whole)
          rw [value, Int64.toInt_ofInt_of_le (by omega) (by omega)] at same
          exact ⟨by simpa using plus, by omega⟩
    subst plus same
    rcases doubleParts?_eq_some parts with ⟨short_of, rfl⟩ | ⟨long, fits, -, toNat⟩
    · -- Without a hidden bit, the number is less than one.
      have tiny : wholePart? mantissa (-(1074 : Nat)) = some magnitude := part
      have zero := wholePart?_below (by decide) short_of tiny
      omega
    · obtain ⟨rfl, rfl⟩ := eq_of_wholePart? low high short long fits part
      simp only [Bool.false_eq_true, if_false] at toNat
      rw [toNat]
      omega
  · intro same
    have parts := doubleParts?_of_toNat low high (by omega) same
    have exponent : ((1074 - scale : Nat) : Int) - 1074 = -(scale : Int) := by omega
    rw [exponent] at parts
    have below : n < 2 ^ 53 := by
      have := Nat.le_mul_of_pos_right n (Nat.two_pow_pos scale)
      omega
    unfold wholeOfDouble?
    rw [parts]
    show (wholePart? (n * 2 ^ scale) (-(scale : Int))).bind _ = _
    rw [wholePart?_scaled low high short]
    show (if Nat.pow 2 63 < n then none else if false = true then _ else _) = _
    rw [Nat.pow_eq, if_neg (by omega), if_neg (by decide), Int.min_eq_left (by omega)]
    rfl

/-- A whole number of two or more that fits a word is held as a word, as a long word or as one
double. -/
theorem Value.whole?_eq_some {value : Value} {n scale : Nat} (low : 2 ^ 52 ≤ n * 2 ^ scale)
    (high : n * 2 ^ scale < 2 ^ 53) (short : scale ≤ 51) (word : n < 2 ^ 31) :
    value.whole? = some (Int64.ofNat n) ↔
      value = .int32 (Int32.ofNat n) ∨ value = .int64 (Int64.ofNat n) ∨
        value = .double (UInt64.ofNat ((1074 - scale) * 2 ^ 52 + n * 2 ^ scale)) := by
  cases value with
  | int32 number =>
    -- Words of either width are compared by the number that they are.
    have wide : (Int64.ofNat n).toInt = n := Int64.toInt_ofNat_of_lt (by omega)
    have narrow : (Int32.ofNat n).toInt = n := Int32.toInt_ofNat_of_lt word
    simp only [whole?, Option.some.injEq, int32.injEq, reduceCtorEq, or_false]
    rw [← Int64.toInt_inj, ← Int32.toInt_inj, Int32.toInt_toInt64, wide, narrow]
  | int64 number => simp [whole?]
  | double bits =>
    have fits : (1074 - scale) * 2 ^ 52 + n * 2 ^ scale < UInt64.size := by
      simp only [UInt64.size]
      omega
    simp only [whole?, reduceCtorEq, double.injEq, false_or]
    rw [wholeOfDouble?_eq_some low high short, ← UInt64.toNat_inj, UInt64.toNat_ofNat_of_lt' fits]
  | _ => simp [whole?]

end DocWire
