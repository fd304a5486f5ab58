import Mathlib
import FramePipeline.Binary64.Basic

/-!
# Magnitudes of binary64 numbers

Rounding keeps at least half of a magnitude, and a sign altogether. So a number that is made of a large
integer is large itself, and stands for a large word, however many digits were lost on the way.

Main definitions: `Binary64.AtLeast` (a magnitude is at least so many units), `Binary64.IsLarge` (a number is
beyond all words of 32 bits). Main statements: `Binary64.atLeast_nearest`, `Binary64.AtLeast.mul`,
`Binary64.IsLarge.le_toWord`.
-/

namespace FramePipeline

namespace Binary64

/-! ## Magnitudes -/

variable {x y : Binary64} {units a b : Nat}

/-- The magnitude is at least so many units. -/
def AtLeast (units : Nat) : Binary64 → Prop
  | .nan => False
  | .infinite _ => True
  | .finite _ u => units ≤ u

theorem one_pos : 0 < one := by
  decide

theorem le_roundToEven (num den : Nat) : num / den ≤ roundToEven num den := by
  unfold roundToEven
  dsimp only
  split
  · exact Nat.le_refl _
  · split
    · exact Nat.le_succ _
    · split
      · exact Nat.le_refl _
      · exact Nat.le_succ _

theorem spacing_pos (units : Nat) : 0 < spacing units := by
  rw [spacing, Nat.one_shiftLeft]
  exact Nat.two_pow_pos _

theorem spacing_le (pos : 0 < units) : spacing units ≤ units := by
  rw [spacing, Nat.one_shiftLeft]
  calc 2 ^ (units.log2 - 52) ≤ 2 ^ units.log2 := Nat.pow_le_pow_right (by omega) (Nat.sub_le ..)
    _ ≤ units := Nat.log2_self_le (by omega)

/-- Rounding keeps half of a magnitude. -/
theorem atLeast_nearest (negative : Bool) {num den : Nat} (le : 2 * units ≤ num / den) :
    (nearest negative num den).AtLeast units := by
  have half : units ≤ roundToEven num (den * spacing (num / den)) * spacing (num / den) := by
    by_cases zero : num / den = 0
    · omega
    · have pos := spacing_pos (num / den)
      have fits := spacing_le (Nat.pos_of_ne_zero zero)
      have rounded := le_roundToEven num (den * spacing (num / den))
      rw [← Nat.div_div_eq_div_mul] at rounded
      generalize num / den = q at *
      generalize spacing q = step at *
      have split := Nat.div_add_mod q step
      have rest := Nat.mod_lt q pos
      have grown := Nat.mul_le_mul_right step rounded
      have first : step ≤ q / step * step := Nat.le_mul_of_pos_left step (Nat.div_pos fits pos)
      rw [Nat.mul_comm] at split
      omega
  unfold nearest
  dsimp only
  split
  · exact half
  · exact True.intro

theorem isNegative_nearest (negative : Bool) (num den : Nat) :
    (nearest negative num den).isNegative = negative := by
  unfold nearest
  dsimp only
  split <;> rfl

theorem atLeast_ofNat {n : Nat} (le : 2 * units ≤ n * one) : (ofNat n).AtLeast units :=
  atLeast_nearest false (by rwa [Nat.div_one])

theorem isNegative_ofNat (n : Nat) : (ofNat n).isNegative = false :=
  isNegative_nearest ..

theorem AtLeast.isZero_eq (h : x.AtLeast units) (pos : 0 < units) : x.isZero = false := by
  cases x with
  | nan => rfl
  | infinite => rfl
  | finite negative u =>
    have le : units ≤ u := h
    cases u with
    | zero => omega
    | succ => rfl

theorem AtLeast.mul (hx : x.AtLeast a) (hy : y.AtLeast b) (pos : 0 < a) (pos' : 0 < b)
    (le : 2 * units ≤ a * b / one) : (x.mul y).AtLeast units := by
  have zero := hx.isZero_eq pos
  have zero' := hy.isZero_eq pos'
  cases x with
  | nan => exact hx.elim
  | infinite =>
    cases y with
    | nan => exact hy.elim
    | infinite => simp [Binary64.mul, zero', AtLeast]
    | finite => simp [Binary64.mul, zero', AtLeast]
  | finite =>
    cases y with
    | nan => exact hy.elim
    | infinite => simp [Binary64.mul, zero, AtLeast]
    | finite =>
      exact atLeast_nearest _ (Nat.le_trans le (Nat.div_le_div_right (Nat.mul_le_mul hx hy)))

theorem isNegative_mul (hx : x.isNegative = false) (hy : y.isNegative = false) :
    (x.mul y).isNegative = false := by
  cases x with
  | nan => rfl
  | infinite s =>
    obtain rfl : s = false := hx
    cases y with
    | nan => rfl
    | infinite t | finite t =>
      obtain rfl : t = false := hy
      simp only [Binary64.mul]
      split <;> rfl
  | finite s =>
    obtain rfl : s = false := hx
    cases y with
    | nan => rfl
    | infinite t =>
      obtain rfl : t = false := hy
      simp only [Binary64.mul]
      split <;> rfl
    | finite t =>
      obtain rfl : t = false := hy
      exact isNegative_nearest ..

/-! ## Words -/

/-- The number is beyond all words of 32 bits. -/
structure IsLarge (x : Binary64) : Prop where
  positive : x.isNegative = false
  reaches : x.AtLeast (UInt32.size * one)

theorem IsLarge.le_toWord (h : x.IsLarge) : UInt32.size ≤ x.toWord := by
  obtain ⟨positive, reaches⟩ := h
  cases x with
  | nan => exact reaches.elim
  | infinite negative =>
    obtain rfl : negative = false := positive
    decide
  | finite negative u =>
    obtain rfl : negative = false := positive
    have reaches : UInt32.size * one ≤ u := reaches
    have pos := one_pos
    have quotient : UInt32.size ≤ (2 * u + one) / (2 * one) := by
      rw [Nat.le_div_iff_mul_le (by omega)]
      generalize one = k at *
      unfold UInt32.size at *
      omega
    have largest : UInt32.size ≤ Word.largest := by decide
    simp only [toWord, Bool.false_eq_true, if_false]
    omega

theorem isLarge_ofNat {n : Nat} (le : 2 * UInt32.size ≤ n) : (ofNat n).IsLarge := by
  refine ⟨isNegative_ofNat n, atLeast_ofNat ?_⟩
  rw [← Nat.mul_assoc]
  exact Nat.mul_le_mul_right one le

theorem toWord_zero (negative : Bool) : (finite negative 0).toWord = 0 := by
  cases negative
  · decide
  · rfl

end Binary64

end FramePipeline
