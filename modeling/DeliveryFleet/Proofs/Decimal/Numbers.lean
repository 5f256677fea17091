import Mathlib
import DeliveryFleet.Decimal.Read

/-!
# Decimal literals read as numbers

A double is NaN, a number, or an infinity. Reading a JSON number (`Decimal.toFloat?`) never gives
NaN (`Decimal.isNaN_of_toFloat?`): a literal is read as a zero, as nothing when it is too large, or
as the nearest double to its coefficient scaled by a power of ten, and none of these steps makes
NaN from a number.

The argument goes through Lean's logical model of doubles (`Float.Model`, `UnpackedFloat`). A value
is packed into bits and read back as NaN exactly when it was NaN
(`UnpackedFloat.unpack_pack_isNaN`): only NaN is packed with an exponent field of all ones and a
mantissa that is not zero. Rounding gives a zero or
a finite value, so a product or a quotient by a finite nonzero value is NaN only when the other
operand is (`UnpackedFloat.mul_isNaN`, `UnpackedFloat.div_isNaN`).

Numbers are totally ordered: IEEE comparison is antisymmetric (`UnpackedFloat.compare_swap`) and
answers for any two numbers, so of two numbers one is at most the other unless the other is below
it (`Float.le_of_not_lt`).
-/

namespace DeliveryFleet

open Float.Model

/-- A bit pattern whose exponent field is not all ones is a number. -/
theorem UnpackedFloat.isNaN_unpack_of_exponent {spec : Format} {b : BitVec spec.numBits}
    (h : UnpackedFloat.unpackExponent b ≠ -1#_) :
    (UnpackedFloat.unpack spec b).isNaN = false := by
  unfold UnpackedFloat.unpack
  simp only [h, if_false]
  split
  · split <;> rfl
  · rfl

/-- Packing into bits and unpacking again keeps whether a value is NaN. -/
theorem UnpackedFloat.unpack_pack_isNaN (u : UnpackedFloat) :
    (UnpackedFloat.unpack Format.binary64 (UnpackedFloat.pack Format.binary64 u)).isNaN =
      u.isNaN := by
  fun_cases UnpackedFloat.pack Format.binary64 u with
  | case1 => decide
  | case2 s => cases s <;> decide
  | case3 s => cases s <;> decide
  | case4 s m e hm biasedExponent h =>
    rw [show (UnpackedFloat.finite s m e hm).isNaN = false from rfl]
    cases s <;> decide
  | case5 s m e hm actualMantissaBits biasedExponent h₁ h₂ =>
    refine UnpackedFloat.isNaN_unpack_of_exponent ?_
    rw [UnpackedFloat.unpackExponent_packComponents]
    simp [Format.binary64] at h₁ ⊢
    simp [← BitVec.toNat_inj]
    omega
  | case6 s m e hm actualMantissaBits biasedExponent h₁ h₂ =>
    refine UnpackedFloat.isNaN_unpack_of_exponent ?_
    rw [UnpackedFloat.unpackExponent_packComponents]
    decide

/-- A float is NaN when its unpacked value is. -/
theorem Float.isNaN_eq (x : Float) : x.isNaN = x.toModel.unpack.isNaN := rfl

/-- A float built from an unpacked value is NaN exactly when the value is. -/
theorem Float.isNaN_ofModel_pack (u : UnpackedFloat) :
    (Float.ofModel (Float.Model.pack u)).isNaN = u.isNaN :=
  UnpackedFloat.unpack_pack_isNaN u

section Unpacked

open Float.Model.UnpackedFloat

theorem UnpackedFloat.roundWithAccuracy_isNaN (spec : Format) (s : Sign) (m : Nat) (e : Int)
    (acc : Accuracy) : (roundWithAccuracy spec s m e acc).isNaN = false := by
  unfold roundWithAccuracy
  split
  dsimp only
  split <;> rfl

theorem UnpackedFloat.round_isNaN (spec : Format) (s : Sign) (m : Nat) (e : Int) :
    (round spec s m e).isNaN = false :=
  UnpackedFloat.roundWithAccuracy_isNaN _ _ _ _ _

theorem UnpackedFloat.ofNat_isNaN (spec : Format) (n : Nat) :
    (UnpackedFloat.ofNat spec n).isNaN = false := by
  unfold UnpackedFloat.ofNat Float.Model.UnpackedFloat.ofInt Float.Model.UnpackedFloat.normalize
  split
  · exact UnpackedFloat.round_isNaN _ _ _ _
  · rfl
  · exact UnpackedFloat.round_isNaN _ _ _ _

/-- A product with a finite nonzero factor is NaN only when the other factor is. -/
theorem UnpackedFloat.mul_isNaN (spec : Format) (a : UnpackedFloat) {b : UnpackedFloat}
    (hb : b matches .finite ..) : (mul spec a b).isNaN = a.isNaN := by
  cases b with
  | finite =>
    cases a with
    | finite => exact UnpackedFloat.roundWithAccuracy_isNaN _ _ _ _ _
    | _ => rfl
  | _ => simp at hb

/-- A quotient by a finite nonzero divisor is NaN only when the dividend is. -/
theorem UnpackedFloat.div_isNaN (spec : Format) (a : UnpackedFloat) {b : UnpackedFloat}
    (hb : b matches .finite ..) : (div spec a b).isNaN = a.isNaN := by
  cases b with
  | finite =>
    cases a with
    | finite =>
      unfold Float.Model.UnpackedFloat.div
      exact UnpackedFloat.roundWithAccuracy_isNaN _ _ _ _ _
    | _ => rfl
  | _ => simp at hb

theorem UnpackedFloat.neg_isNaN (a : UnpackedFloat) : a.neg.isNaN = a.isNaN := by
  cases a <;> rfl

theorem UnpackedFloat.ofScientific_isNaN (spec : Format) (m : Nat) (e : Int) :
    (UnpackedFloat.ofScientific spec m e).isNaN = false := by
  unfold UnpackedFloat.ofScientific
  split
  · rfl
  split
  · rfl
  split
  · rfl
  split
  · rw [UnpackedFloat.mul_isNaN _ _ rfl]
    rfl
  · rw [UnpackedFloat.div_isNaN _ _ rfl]
    rfl

end Unpacked

/-! ## Floats that are numbers -/

theorem Float.isNaN_neg (x : Float) : (-x).isNaN = x.isNaN := by
  show (Float.ofModel (Float.Model.pack x.toModel.unpack.neg)).isNaN = _
  rw [Float.isNaN_ofModel_pack, UnpackedFloat.neg_isNaN, Float.isNaN_eq]

theorem Float.isNaN_toFloat (n : UInt64) : n.toFloat.isNaN = false := by
  show (Float.ofModel (Float.Model.pack (UnpackedFloat.ofNat Format.binary64 n.toNat))).isNaN = _
  rw [Float.isNaN_ofModel_pack, UnpackedFloat.ofNat_isNaN]

/-- Every power of ten that reads a short literal is a finite nonzero float. -/
theorem Float.powersOfTen_finite :
    Float.exactlyRepresentablePowersOfTen.all (fun p => p.toModel.unpack matches .finite ..) =
      true := by
  decide +kernel

theorem Float.powerOfTen_finite {e : Nat} (h : e < Float.exactlyRepresentablePowersOfTen.size) :
    Float.exactlyRepresentablePowersOfTen[e].toModel.unpack matches .finite .. :=
  Array.all_eq_true.1 Float.powersOfTen_finite e h

theorem Float.isNaN_div {x p : Float} (hp : p.toModel.unpack matches .finite ..) :
    (x / p).isNaN = x.isNaN := by
  show (Float.ofModel (Float.Model.pack
    (UnpackedFloat.div Format.binary64 x.toModel.unpack p.toModel.unpack))).isNaN = _
  rw [Float.isNaN_ofModel_pack, UnpackedFloat.div_isNaN _ _ hp, Float.isNaN_eq]

theorem Float.isNaN_mul {x p : Float} (hp : p.toModel.unpack matches .finite ..) :
    (x * p).isNaN = x.isNaN := by
  show (Float.ofModel (Float.Model.pack
    (UnpackedFloat.mul Format.binary64 x.toModel.unpack p.toModel.unpack))).isNaN = _
  rw [Float.isNaN_ofModel_pack, UnpackedFloat.mul_isNaN _ _ hp, Float.isNaN_eq]

/-- A decimal literal is never read as NaN. -/
theorem Float.isNaN_ofScientific (m : Nat) (s : Bool) (e : Nat) :
    (Float.ofScientific m s e).isNaN = false := by
  unfold Float.ofScientific
  split
  · rename_i h
    have he : e < Float.exactlyRepresentablePowersOfTen.size := by
      simp [Float.exactlyRepresentablePowersOfTen]
      omega
    have hp := Float.powerOfTen_finite he
    cases s
    · rw [if_neg Bool.false_ne_true, Float.isNaN_mul hp, Float.isNaN_toFloat]
    · rw [if_pos rfl, Float.isNaN_div hp, Float.isNaN_toFloat]
  · show (Float.ofModel
      (Float.Model.pack (UnpackedFloat.ofScientific Format.binary64 m _))).isNaN = _
    rw [Float.isNaN_ofModel_pack, UnpackedFloat.ofScientific_isNaN]

theorem Float.isNaN_zero : (0 : Float).isNaN = false :=
  Float.isNaN_ofScientific 0 false 0

/-- A JSON number is never read as NaN. -/
theorem Decimal.isNaN_of_toFloat? {t : String} {x : Float} (h : Decimal.toFloat? t = some x) :
    x.isNaN = false := by
  have hsigned : ∀ (neg : Bool) (y : Float), (if neg then -y else y).isNaN = y.isNaN := by
    intro neg y
    cases neg
    · rfl
    · exact Float.isNaN_neg y
  unfold Decimal.toFloat? at h
  rcases hparts : Decimal.parts t with ⟨neg, coeff, exp⟩
  simp only [hparts] at h
  have hy : (if exp ≥ 0 then Float.ofScientific (coeff * Nat.pow 10 exp.toNat) false 0
      else Float.ofScientific coeff true (-exp).toNat).isNaN = false := by
    split <;> exact Float.isNaN_ofScientific _ _ _
  generalize (if exp ≥ 0 then Float.ofScientific (coeff * Nat.pow 10 exp.toNat) false 0
      else Float.ofScientific coeff true (-exp).toNat) = y at h hy
  -- a zero coefficient or a tiny literal reads as a zero, a huge one or an infinity as nothing
  split at h
  · cases h
    rw [hsigned, Float.isNaN_zero]
  split at h
  · cases h
  split at h
  · cases h
    rw [hsigned, Float.isNaN_zero]
  split at h
  · cases h
  · cases h
    rw [hsigned, hy]

/-! ## Comparing numbers -/

section Compare

open Float.Model.UnpackedFloat

/-- IEEE comparison is antisymmetric: swapping the operands swaps the answer. -/
theorem UnpackedFloat.compare_swap (a b : UnpackedFloat) :
    b.compare a = (a.compare b).map Ordering.swap := by
  rcases a with s | _ | s | ⟨s, m, e, hm⟩ <;> rcases b with t | _ | t | ⟨t, n, f, hn⟩ <;>
    (try cases s) <;> (try cases t) <;>
    simp [Float.Model.UnpackedFloat.compare, Ordering.swap_then, Int.compare_swap,
      Nat.compare_swap] <;> rfl

/-- Two numbers are always comparable. -/
theorem UnpackedFloat.compare_isSome {a b : UnpackedFloat} (ha : a.isNaN = false)
    (hb : b.isNaN = false) : (a.compare b).isSome = true := by
  rcases a with s | _ | s | ⟨s, m, e, hm⟩ <;> rcases b with t | _ | t | ⟨t, n, f, hn⟩ <;>
    (try cases s) <;> (try cases t) <;>
    simp_all [Float.Model.UnpackedFloat.compare, Float.Model.UnpackedFloat.isNaN]

end Compare

/-- Float order is IEEE comparison of the unpacked values. -/
theorem Float.lt_iff (x y : Float) :
    x < y ↔ (x.toModel.unpack.compare y.toModel.unpack == some .lt) = true := by
  show decide (x.toModel < y.toModel) = true ↔ _
  rw [decide_eq_true_iff]
  rfl

theorem Float.le_iff (x y : Float) :
    x ≤ y ↔ (x.toModel.unpack.compare y.toModel.unpack).any (·.isLE) = true := by
  show decide (x.toModel ≤ y.toModel) = true ↔ _
  rw [decide_eq_true_iff]
  rfl

/-- Of two numbers, one is at most the other unless the other is below it. -/
theorem Float.le_of_not_lt {x y : Float} (hx : x.isNaN = false) (hy : y.isNaN = false)
    (h : ¬ y < x) : x ≤ y := by
  rw [Float.isNaN_eq] at hx hy
  rw [Float.lt_iff, UnpackedFloat.compare_swap] at h
  rw [Float.le_iff]
  have hsome := UnpackedFloat.compare_isSome hx hy
  rcases hc : x.toModel.unpack.compare y.toModel.unpack with _ | o
  · rw [hc] at hsome
    cases hsome
  · rw [hc] at h
    cases o <;> simp_all

/-- No float is below one it is at most. -/
theorem Float.not_lt_of_le {x y : Float} (h : x ≤ y) : ¬ y < x := by
  rw [Float.le_iff] at h
  rw [Float.lt_iff, UnpackedFloat.compare_swap]
  rcases hc : x.toModel.unpack.compare y.toModel.unpack with _ | o
  · rw [hc] at h
    cases h
  · rw [hc] at h
    cases o <;> simp_all

end DeliveryFleet
