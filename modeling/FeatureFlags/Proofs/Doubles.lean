import FeatureFlags.Bucketing
import Mathlib

/-!
What the arithmetic of doubles does to shares: zero adds nothing to a sum, and a comparison leaves no
third way. A double is packed again after each operation, so the first of these rests on that packing
what was unpacked changes nothing.
-/
namespace FeatureFlags.Doubles

open Float.Model Float.Model.UnpackedFloat

/-- Packing what was unpacked changes nothing; there is only one word that is not a number. -/
theorem pack_unpack_eq (x : Float.Model) : Float.Model.pack x.unpack = x := by
  obtain ⟨word, hvalid⟩ := x
  simp only [Float.Model.pack, Float.Model.unpack, pack_unpack_of_valid hvalid]

theorem add_eq_pack (x y : Float) :
    x + y = .ofModel (Float.Model.pack
      (UnpackedFloat.add .binary64 x.toModel.unpack y.toModel.unpack)) := rfl

/-- Comparisons of doubles are comparisons of what they are unpacked to. -/
theorem lt_iff {x y : Float} :
    x < y ↔ x.toModel.unpack.compare y.toModel.unpack = some .lt := by
  change (decide (_ < _) = true) ↔ _
  rw [decide_eq_true_iff]
  exact beq_iff_eq

theorem le_iff {x y : Float} :
    x ≤ y ↔ (x.toModel.unpack.compare y.toModel.unpack).any Ordering.isLE := by
  change (decide (_ ≤ _) = true) ↔ _
  rw [decide_eq_true_iff]
  exact Iff.rfl

theorem beq_iff {x y : Float} :
    (x == y) = true ↔ x.toModel.unpack.compare y.toModel.unpack = some .eq := by
  change ((x.toModel.unpack.compare y.toModel.unpack == some .eq) = true) ↔ _
  exact beq_iff_eq

theorem compare_zero (u : UnpackedFloat) (sign : Sign) :
    u.compare (.zero sign) = u.compare (.zero .positive) := by
  cases u with
  | infinity sign' => cases sign' <;> rfl
  | finite sign' => cases sign' <;> rfl
  | _ => rfl

theorem unpack_zero : (0.0 : Float).toModel.unpack = .zero .positive := by
  have hpacked : (0.0 : Float) = .ofModel (Float.Model.pack (.zero .positive)) := by decide +kernel
  rw [hpacked]
  rfl

/-- Adding zero may turn a zero around, which no comparison tells. -/
theorem lt_add_zero_iff (x y : Float) : x < y + 0.0 ↔ x < y := by
  rw [add_eq_pack, unpack_zero]
  cases hy : y.toModel.unpack with
  | notANumber | infinity | finite => simp only [UnpackedFloat.add, ← hy, pack_unpack_eq]
  | zero sign =>
    have hsum : UnpackedFloat.add .binary64 (.zero sign) (.zero .positive) = .zero .positive := by
      cases sign <;> rfl
    rw [hsum, lt_iff, lt_iff, hy, compare_zero _ sign]
    rfl

theorem not_lt_zero {x : Float} (h : 0.0 ≤ x) : ¬ x < 0.0 := by
  rw [le_iff, unpack_zero] at h
  rw [lt_iff, unpack_zero]
  cases hx : x.toModel.unpack with
  | infinity sign => cases sign <;> simp_all [UnpackedFloat.compare]
  | finite sign => cases sign <;> simp_all [UnpackedFloat.compare]
  | _ => simp_all [UnpackedFloat.compare]

/-- What is no greater is less or equal. -/
theorem lt_iff_beq_eq_false {x y : Float} (h : x ≤ y) : x < y ↔ (x == y) = false := by
  rw [le_iff] at h
  rw [lt_iff, ← Bool.not_eq_true, beq_iff]
  cases hcompare : x.toModel.unpack.compare y.toModel.unpack with
  | none => simp [hcompare] at h
  | some ordering => cases ordering <;> simp_all

/-- A double that is finite is equal to itself. -/
theorem beq_self_of_isFinite {x : Float} (h : x.isFinite = true) : (x == x) = true := by
  rw [beq_iff]
  change x.toModel.unpack.isFinite = true at h
  cases hx : x.toModel.unpack with
  | notANumber => simp [hx, UnpackedFloat.isFinite] at h
  | infinity sign => simp [hx, UnpackedFloat.isFinite] at h
  | zero sign => rfl
  | finite sign mantissa exponent => cases sign <;> simp [UnpackedFloat.compare]

end FeatureFlags.Doubles
