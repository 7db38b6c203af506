import FeatureFlags.Proofs.DoubleParts

/-!
The doubles that whole numbers are made into. Rounding cuts off the last places of a number and
keeps of them whether at least a half is missing, and whether more or less than that; so it gives
the nearest multiple of the place, and no double is nearer to the number. A number that a double has
the places for is made into one and multiplied by one; a larger one is rounded at once.
-/
namespace FeatureFlags.Binary64

open Float.Model Float.Model.UnpackedFloat

def half (bit : Bool) : ℚ := if bit then 1 / 2 else 0

theorem half_false : half false = 0 := rfl

theorem half_true : half true = 1 / 2 := rfl

theorem half_bounds (bit : Bool) : 0 ≤ half bit ∧ half bit ≤ 1 / 2 := by
  cases bit <;> norm_num [half]

/-- The mantissa is a number cut off; of what is missing one bit tells whether it is at least a
half, and the other whether that is not all. -/
def CutOff (em : ExtendedMantissa) (x : ℚ) : Prop :=
  ∃ rest, x = em.mantissa + half em.roundBit + rest ∧ 0 ≤ rest ∧ rest < 1 / 2 ∧
    (em.stickyBit = true ↔ rest ≠ 0)

theorem cutOff_exact (mantissa : ℕ) :
    CutOff (.ofMantissaAndAccuracy mantissa .exact) mantissa := by
  refine ⟨0, ?_, le_rfl, by norm_num, nofun, fun hrest => absurd rfl hrest⟩
  show (mantissa : ℚ) = mantissa + half false + 0
  rw [half_false, add_zero, add_zero]

/-- The bit that is cut off next. -/
theorem div_two_eq (n : ℕ) : (n : ℚ) / 2 = (n / 2 : ℕ) + half (n % 2 != 0) := by
  have hdiv : (n : ℚ) = 2 * (n / 2 : ℕ) + (n % 2 : ℕ) := by
    exact_mod_cast (Nat.div_add_mod n 2).symm
  rcases Nat.mod_two_eq_zero_or_one n with hbit | hbit
  · rw [hbit, Nat.cast_zero] at hdiv
    rw [hbit, bne_self_eq_false, half_false]
    linarith
  · rw [hbit, Nat.cast_one] at hdiv
    rw [hbit]
    show (n : ℚ) / 2 = (n / 2 : ℕ) + half true
    rw [half_true]
    linarith

/-- One more bit is cut off, and the two bits still tell of all that is missing. -/
theorem CutOff.shiftRightOne {em : ExtendedMantissa} {x : ℚ} (h : CutOff em x) :
    CutOff em.shiftRightOne (x / 2) := by
  obtain ⟨rest, hx, hpos, hsmall, hsticky⟩ := h
  obtain ⟨hleast, hmost⟩ := half_bounds em.roundBit
  have hsplit := div_two_eq em.mantissa
  unfold ExtendedMantissa.shiftRightOne
  refine ⟨(half em.roundBit + rest) / 2, ?_, by linarith, by linarith, ?_⟩
  · rw [hx]
    dsimp only
    linarith
  · dsimp only
    rw [Bool.or_eq_true, hsticky]
    cases em.roundBit with
    | false =>
      rw [half_false, zero_add]
      simp
    | true =>
      have hmore : (half true + rest) / 2 ≠ 0 := by
        rw [half_true]
        positivity
      exact iff_of_true (.inl rfl) hmore

/-- The same for many bits. -/
theorem CutOff.shiftRight {em : ExtendedMantissa} {x : ℚ} (h : CutOff em x) (places : ℕ) :
    CutOff (em >>> places) (x / 2 ^ places) := by
  change CutOff (places.repeat ExtendedMantissa.shiftRightOne em) _
  induction places with
  | zero => simpa [Nat.repeat] using h
  | succ places ih =>
    rw [Nat.repeat, pow_succ, ← div_div]
    exact ih.shiftRightOne

/-- The rounded mantissa is a nearest count, and the even one of two. -/
theorem CutOff.rounded {em : ExtendedMantissa} {x : ℚ} (h : CutOff em x) :
    |em.roundedMantissa - x| ≤ 1 / 2 ∧
      (|em.roundedMantissa - x| = 1 / 2 → Even em.roundedMantissa) := by
  obtain ⟨mantissa, roundBit, stickyBit⟩ := em
  obtain ⟨rest, rfl, hpos, hsmall, hsticky⟩ := h
  dsimp only at hsticky ⊢
  cases roundBit with
  | false =>
    have hrounded : (ExtendedMantissa.mk mantissa false stickyBit).roundedMantissa = mantissa := by
      cases stickyBit <;> rfl
    have hclose : |(mantissa : ℚ) - (mantissa + half false + rest)| < 1 / 2 := by
      rw [half_false, abs_lt]
      constructor <;> linarith
    rw [hrounded]
    exact ⟨hclose.le, fun htie => absurd htie hclose.ne⟩
  | true =>
    cases stickyBit with
    | false =>
      have hrest : rest = 0 := by simpa using hsticky
      have hrounded : (ExtendedMantissa.mk mantissa true false).roundedMantissa =
        mantissa + mantissa % 2 := rfl
      rw [hrounded, hrest, half_true]
      rcases Nat.mod_two_eq_zero_or_one mantissa with hbit | hbit
      · rw [hbit]
        exact ⟨by norm_num [abs_le], fun _ => Nat.even_iff.mpr hbit⟩
      · rw [hbit]
        exact ⟨by norm_num [abs_le], fun _ => (Nat.odd_iff.mpr hbit).add_one⟩
    | true =>
      have hrest : rest ≠ 0 := by simpa using hsticky
      have hmore : 0 < rest := lt_of_le_of_ne hpos hrest.symm
      have hrounded : (ExtendedMantissa.mk mantissa true true).roundedMantissa = mantissa + 1 := rfl
      have hclose : |((mantissa + 1 : ℕ) : ℚ) - (mantissa + half true + rest)| < 1 / 2 := by
        push_cast
        rw [half_true, abs_lt]
        constructor <;> linarith
      rw [hrounded]
      exact ⟨hclose.le, fun htie => absurd htie hclose.ne⟩

theorem shiftToTargetExponent_eq {mantissa places : ℕ} (exponent : ℤ)
    (hplaces : mantissa.log2 = 52 + places) (hexponent : -1074 ≤ exponent + places) :
    shiftToTargetExponent .binary64 mantissa exponent .exact =
      (ExtendedMantissa.ofMantissaAndAccuracy mantissa .exact >>> places, exponent + places) := by
  have htarget : Format.binary64.targetExponent (totalExponent mantissa exponent) =
      exponent + places := by
    have hbits : (Format.binary64.mantissaBits : ℤ) = 53 := rfl
    have hmin : Format.binary64.minExponent = -1074 := rfl
    rw [Format.targetExponent, totalExponent, hplaces, hbits, hmin]
    push_cast
    omega
  have hshift : (exponent + places - exponent).toNat = places := by omega
  rw [shiftToTargetExponent, htarget, shiftToExponent, hshift]

theorem div_two_pow_bounds {mantissa places : ℕ} (hplaces : mantissa.log2 = 52 + places) :
    (2 ^ 52 : ℚ) ≤ mantissa / 2 ^ places ∧ (mantissa / 2 ^ places : ℚ) < 2 ^ 53 := by
  have hne : mantissa ≠ 0 := by
    rintro rfl
    rw [Nat.log2_zero] at hplaces
    omega
  have hlow : 2 ^ (52 + places) ≤ mantissa := hplaces ▸ Nat.log2_self_le hne
  have hhigh : mantissa < 2 ^ (53 + places) := by
    have h := Nat.lt_log2_self (n := mantissa)
    rwa [hplaces, show 52 + places + 1 = 53 + places by omega] at h
  rw [le_div_iff₀ (by positivity), div_lt_iff₀ (by positivity), ← pow_add, ← pow_add]
  exact ⟨by exact_mod_cast hlow, by exact_mod_cast hhigh⟩

/-- Rounding a normal mantissa gives a normal one, or the next power of two. -/
theorem CutOff.rounded_bounds {em : ExtendedMantissa} {x : ℚ} (h : CutOff em x) (hlow : 2 ^ 52 ≤ x)
    (hhigh : x < 2 ^ 53) : 2 ^ 52 ≤ em.roundedMantissa ∧ em.roundedMantissa ≤ 2 ^ 53 := by
  obtain ⟨hbelow, habove⟩ := abs_le.mp h.rounded.1
  have hleast : (2 ^ 52 : ℚ) < em.roundedMantissa + 1 := by linarith
  have hmost : (em.roundedMantissa : ℚ) < 2 ^ 53 + 1 := by linarith
  constructor
  · exact Nat.lt_succ_iff.mp (by exact_mod_cast hleast)
  · exact Nat.lt_succ_iff.mp (by exact_mod_cast hmost)

/-- A count that was rounded up to one more bit is shifted once more, which loses nothing. -/
theorem exists_shiftToTargetExponent {count : ℕ} {exponent : ℤ} (hlow : 2 ^ 52 ≤ count)
    (hhigh : count ≤ 2 ^ 53) (hexponent : -1074 ≤ exponent) :
    ∃ em e, shiftToTargetExponent .binary64 count exponent .exact = (em, e) ∧
      2 ^ 52 ≤ em.mantissa ∧ em.mantissa < 2 ^ 53 ∧ exponent ≤ e ∧ e ≤ exponent + 1 ∧
      (em.mantissa : ℚ) * 2 ^ e = count * 2 ^ exponent ∧ (Even count → Even em.mantissa) := by
  rcases hhigh.lt_or_eq with hless | rfl
  · have hlog : count.log2 = 52 + 0 := by
      rw [Nat.log2_eq_iff (by omega)]
      omega
    have hshift := shiftToTargetExponent_eq exponent hlog (by omega)
    rw [Nat.cast_zero, add_zero] at hshift
    exact ⟨_, _, hshift, hlow, hless, le_rfl, by omega, rfl, id⟩
  · have hlog : (2 ^ 53).log2 = 52 + 1 := Nat.log2_two_pow
    have hshift := shiftToTargetExponent_eq exponent hlog (by omega)
    have hhalf : (ExtendedMantissa.ofMantissaAndAccuracy (2 ^ 53) .exact >>> 1).mantissa = 2 ^ 52 :=
      rfl
    rw [Nat.cast_one] at hshift
    refine ⟨_, _, hshift, hhalf.ge, by rw [hhalf]; decide, by omega, le_rfl, ?_, fun _ => ?_⟩
    · rw [hhalf, zpow_add_one₀ two_ne_zero]
      push_cast
      ring
    · rw [hhalf]
      decide

/-- Units of `2 ^ exponent`, as many as a normal double has, are next to a number among the
multiples of `2 ^ places`, of which the number has as many; where two are equally near, the units
are even. -/
structure Near (x : ℚ) (places : ℤ) (mantissa : ℕ) (exponent : ℤ) : Prop where
  top : 2 ^ (52 + places) ≤ x
  low : 2 ^ 52 ≤ mantissa
  high : mantissa < 2 ^ 53
  least : places ≤ exponent
  most : exponent ≤ places + 1
  near : |mantissa * 2 ^ exponent - x| ≤ 2 ^ places / 2
  even_of_tie : |mantissa * 2 ^ exponent - x| = 2 ^ places / 2 → Even mantissa

/-- A number of more than 53 bits is rounded to one of 53, next to it. -/
theorem exists_roundWithAccuracy (sign : Sign) {mantissa places : ℕ} (exponent : ℤ)
    (hplaces : mantissa.log2 = 52 + places) (hexponent : -1074 ≤ exponent + places) :
    ∃ m e h, roundWithAccuracy .binary64 sign mantissa exponent .exact = .finite sign m e h ∧
      Near (mantissa * 2 ^ exponent) (exponent + places) m e := by
  have hcut := (cutOff_exact mantissa).shiftRight places
  have hshift := shiftToTargetExponent_eq exponent hplaces hexponent
  generalize ExtendedMantissa.ofMantissaAndAccuracy mantissa .exact >>> places = em at hcut hshift
  obtain ⟨hnear, htie⟩ := hcut.rounded
  obtain ⟨hlow, hhigh⟩ := div_two_pow_bounds hplaces
  obtain ⟨hleast, hmost⟩ := hcut.rounded_bounds hlow hhigh
  obtain ⟨last, e, hlast, hbelow, habove, hle, hlt, hvalue, heven⟩ :=
    exists_shiftToTargetExponent hleast hmost hexponent
  have hpos : (0 : ℚ) < 2 ^ (exponent + places) := by positivity
  have hx : (mantissa : ℚ) * 2 ^ exponent = mantissa / 2 ^ places * 2 ^ (exponent + places) := by
    rw [zpow_add₀ two_ne_zero, zpow_natCast]
    field_simp
  -- The distance, counted in units of the place that is rounded to.
  have hdist : |(last.mantissa : ℚ) * 2 ^ e - mantissa * 2 ^ exponent| =
      |(em.roundedMantissa : ℚ) - mantissa / 2 ^ places| * 2 ^ (exponent + places) := by
    rw [hvalue, hx, ← sub_mul, abs_mul, abs_of_pos hpos]
  have hne : last.mantissa ≠ 0 := by omega
  refine ⟨last.mantissa, e, Nat.pos_of_ne_zero hne, ?_, ?_, hbelow, habove, hle, hlt, ?_, ?_⟩
  · unfold roundWithAccuracy
    rw [hshift]
    dsimp only
    rw [hlast]
    dsimp only
    rw [dif_neg hne]
  · rw [hx, zpow_add₀ two_ne_zero 52]
    exact mul_le_mul_of_nonneg_right hlow hpos.le
  · rw [hdist]
    have hunit := mul_le_mul_of_nonneg_right hnear hpos.le
    linarith
  · intro h
    rw [hdist] at h
    have hhalf : |(em.roundedMantissa : ℚ) - mantissa / 2 ^ places| = 1 / 2 :=
      mul_right_cancel₀ hpos.ne' (by rw [h]; ring)
    exact heven (htie hhalf)

namespace Near

variable {x : ℚ} {places exponent : ℤ} {mantissa : ℕ}

/-- The units make up a multiple of the place that was rounded to. -/
theorem exists_multiple (h : Near x places mantissa exponent) :
    ∃ count : ℤ, (mantissa : ℚ) * 2 ^ exponent = count * 2 ^ places := by
  obtain ⟨more, hmore⟩ := Int.le.dest h.least
  refine ⟨mantissa * 2 ^ more, ?_⟩
  rw [← hmore, zpow_add₀ two_ne_zero, zpow_natCast]
  push_cast
  ring

/-- No multiple of the place is nearer. -/
theorem le_dist_multiple (h : Near x places mantissa exponent) (other : ℤ) :
    |mantissa * 2 ^ exponent - x| ≤ |other * 2 ^ places - x| ∧
      (|mantissa * 2 ^ exponent - x| = |other * 2 ^ places - x| →
        (other : ℚ) * 2 ^ places = mantissa * 2 ^ exponent ∨ Even mantissa) := by
  obtain ⟨count, hcount⟩ := h.exists_multiple
  have hnear := h.near
  have htie := h.even_of_tie
  have hpos : (0 : ℚ) < 2 ^ places := by positivity
  rw [hcount] at hnear htie ⊢
  by_cases hsame : other = count
  · rw [hsame]
    exact ⟨le_rfl, fun _ => .inl rfl⟩
  · have hapart : (1 : ℚ) ≤ |((other - count : ℤ) : ℚ)| := by
      exact_mod_cast Int.one_le_abs (sub_ne_zero.mpr hsame)
    have hplace : (2 : ℚ) ^ places ≤ |(other : ℚ) * 2 ^ places - count * 2 ^ places| := by
      rw [← sub_mul, abs_mul, abs_of_pos hpos]
      push_cast at hapart
      exact le_mul_of_one_le_left hpos.le hapart
    have htriangle := abs_sub_le ((other : ℚ) * 2 ^ places) x (count * 2 ^ places)
    rw [abs_sub_comm x] at htriangle
    refine ⟨by linarith, fun heq => .inr (htie (by linarith))⟩

/-- A multiple of the place is kept. -/
theorem eq_of_multiple (h : Near x places mantissa exponent) (count : ℤ)
    (hx : x = count * 2 ^ places) : (mantissa : ℚ) * 2 ^ exponent = x := by
  have hdist := (h.le_dist_multiple count).1
  rw [← hx, sub_self, abs_zero] at hdist
  exact sub_eq_zero.mp (abs_nonpos_iff.mp hdist)

/-- Nothing that a double can be is nearer. Of a finer place there is nothing above the power of two
that the number has its top place at, and that is a multiple of the place, as is all of a coarser
place. -/
theorem le_dist (h : Near x places mantissa exponent) {units : ℤ} (hunits : |units| < 2 ^ 53)
    (scale : ℤ) : |mantissa * 2 ^ exponent - x| ≤ |units * 2 ^ scale - x| ∧
      (|mantissa * 2 ^ exponent - x| = |units * 2 ^ scale - x| →
        (units : ℚ) * 2 ^ scale = mantissa * 2 ^ exponent ∨ Even mantissa) := by
  have hx := h.top
  have hpos : (0 : ℚ) < 2 ^ places := by positivity
  rcases le_or_gt places scale with hcoarse | hfine
  · obtain ⟨more, rfl⟩ := Int.le.dest hcoarse
    have hmultiple : (units : ℚ) * 2 ^ (places + more) =
        ((units * 2 ^ more : ℤ) : ℚ) * 2 ^ places := by
      rw [zpow_add₀ two_ne_zero, zpow_natCast]
      push_cast
      ring
    rw [hmultiple]
    exact h.le_dist_multiple _
  · -- Below the top place the number is at least as near to its power of two as to the double.
    have hpower : (2 : ℚ) ^ (52 + places) = ((2 ^ 52 : ℤ) : ℚ) * 2 ^ places := by
      rw [zpow_add₀ two_ne_zero]
      norm_cast
    have hbelow : (units : ℚ) * 2 ^ scale ≤ 2 ^ (52 + places) := by
      have hfew : (units : ℚ) ≤ 2 ^ 53 := by exact_mod_cast (le_abs_self units).trans hunits.le
      calc (units : ℚ) * 2 ^ scale
        _ ≤ 2 ^ 53 * 2 ^ scale := by gcongr
        _ ≤ 2 ^ 53 * 2 ^ (places - 1) := by
          gcongr
          · norm_num
          · omega
        _ = 2 ^ (52 + places) := by
          rw [← zpow_natCast, ← zpow_add₀ two_ne_zero]
          congr 1
          push_cast
          ring
    obtain ⟨hnear, htie⟩ := h.le_dist_multiple (2 ^ 52)
    rw [← hpower] at hnear htie
    have hfar : |(2 : ℚ) ^ (52 + places) - x| ≤ |units * 2 ^ scale - x| := by
      rw [abs_of_nonpos (by linarith), abs_of_nonpos (by linarith)]
      linarith
    refine ⟨hnear.trans hfar, fun heq => ?_⟩
    have hthere : |(2 : ℚ) ^ (52 + places) - x| = |units * 2 ^ scale - x| :=
      le_antisymm hfar (heq ▸ hnear)
    have hsame : (units : ℚ) * 2 ^ scale = 2 ^ (52 + places) := by
      rw [abs_of_nonpos (by linarith), abs_of_nonpos (by linarith)] at hthere
      linarith
    rw [hsame]
    exact htie (heq.trans hthere.symm)

/-- A whole number that has no more places than a double is kept. -/
theorem eq_of_le {n : ℕ} (h : Near n places mantissa exponent) (hn : n ≤ 2 ^ 53) :
    (mantissa : ℚ) * 2 ^ exponent = n := by
  have hplaces : places ≤ 1 := by
    have hpower : (2 : ℚ) ^ (52 + places) ≤ 2 ^ (53 : ℤ) := h.top.trans (by exact_mod_cast hn)
    have hle := (zpow_le_zpow_iff_right₀ one_lt_two).mp hpower
    omega
  rcases hplaces.lt_or_eq with hless | rfl
  · obtain ⟨missing, hmissing⟩ := Int.le.dest (show places ≤ 0 by omega)
    have hzero : (missing : ℤ) + places = 0 := by omega
    refine h.eq_of_multiple (n * 2 ^ missing) ?_
    push_cast
    rw [mul_assoc, ← zpow_natCast, ← zpow_add₀ two_ne_zero, hzero, zpow_zero, mul_one]
  · have htop : n = 2 ^ 53 := by
      have hleast : (2 ^ 53 : ℚ) ≤ n := by exact_mod_cast h.top
      exact le_antisymm hn (by exact_mod_cast hleast)
    exact h.eq_of_multiple (2 ^ 52) (by rw [htop]; norm_num)

end Near

theorem toFloat_eq (n : UInt64) :
    n.toFloat = .ofModel (Float.Model.pack (UnpackedFloat.ofNat .binary64 n.toNat)) := rfl

theorem mul_eq (x y : Float) : x * y = .ofModel (Float.Model.pack
    (UnpackedFloat.mul .binary64 x.toModel.unpack y.toModel.unpack)) := rfl

theorem neg_eq (x : Float) : Float.neg x = .ofModel (Float.Model.pack x.toModel.unpack.neg) := rfl

theorem ofNat_eq_of_lt {n : ℕ} (h : n < 2 ^ 53) :
    Float.ofNat n = n.toUInt64.toFloat * Float.ofBits 0x3FF0000000000000 := by
  show Float.ofScientific n false 0 = _
  rw [Float.ofScientific, dif_pos ⟨h, by decide⟩]
  rfl

theorem ofNat_eq_of_le {n : ℕ} (h : 2 ^ 53 ≤ n) :
    Float.ofNat n = .ofModel (Float.Model.pack (UnpackedFloat.ofScientific .binary64 n 0)) := by
  show Float.ofScientific n false 0 = _
  rw [Float.ofScientific, dif_neg (by omega)]
  rfl

theorem unpack_one : (Float.ofBits 0x3FF0000000000000).toModel.unpack =
    .finite .positive (2 ^ 52) (-52) (by decide) := by
  have hpacked : Float.ofBits 0x3FF0000000000000 =
      .ofModel (Float.Model.pack (.finite .positive (2 ^ 52) (-52) (by decide))) := by
    decide +kernel
  rw [hpacked]
  exact unpack_pack_normal .positive _ le_rfl (by decide) (by decide) (by decide)

theorem mul_finite (s s' : Sign) {m m' : ℕ} (e e' : ℤ) (h : 0 < m) (h' : 0 < m') :
    UnpackedFloat.mul .binary64 (.finite s m e h) (.finite s' m' e' h') =
      roundWithAccuracy .binary64 (s * s') (m * m') (e + e') .exact := rfl

theorem log2_mul_two_pow {n : ℕ} (h : 0 < n) (places : ℕ) :
    (n * 2 ^ places).log2 = n.log2 + places := by
  rw [Nat.log2_eq_iff (by positivity)]
  have hlow := Nat.log2_self_le h.ne'
  have hhigh := Nat.lt_log2_self (n := n)
  constructor
  · rw [pow_add]
    gcongr
  · rw [show n.log2 + places + 1 = n.log2 + 1 + places by omega, pow_add]
    gcongr

theorem cast_mul_two_pow (n places : ℕ) :
    ((n * 2 ^ places : ℕ) : ℚ) * 2 ^ (-places : ℤ) = n := by
  push_cast
  rw [mul_assoc, ← zpow_natCast, ← zpow_add₀ two_ne_zero, add_neg_cancel, zpow_zero, mul_one]

/-- The unpacked double is a whole number next to the number. -/
def RoundsTo (n : ℕ) (u : UnpackedFloat) : Prop :=
  ∃ m e h, u = .finite .positive m e h ∧ -1074 ≤ e ∧ e ≤ 971 ∧ (∃ k : ℕ, (m : ℚ) * 2 ^ e = k) ∧
    ∃ places, Near n places m e

/-- Such a double survives being packed. -/
theorem RoundsTo.unpack_pack {n : ℕ} {u : UnpackedFloat} (h : RoundsTo n u) :
    (Float.Model.pack u).unpack = u := by
  obtain ⟨m, e, hpos, rfl, hleast, hmost, -, places, hnear⟩ := h
  exact unpack_pack_normal .positive hpos hnear.low hnear.high hleast hmost

theorem roundsTo_ofScientific {n : ℕ} (h : 2 ^ 53 ≤ n) (hlog : n.log2 < 1023) :
    RoundsTo n (UnpackedFloat.ofScientific .binary64 n 0) := by
  have hlow : 53 ≤ n.log2 := (Nat.le_log2 (by omega)).mpr h
  have hbits : (n * 2 ^ 53).log2 = 52 + (n.log2 + 1) := by
    rw [log2_mul_two_pow (by omega)]
    omega
  obtain ⟨m, e, hpos, hround, hnear⟩ :=
    exists_roundWithAccuracy (.positive * .positive) (-53) hbits (by omega)
  have hx : ((n * 2 ^ 53 : ℕ) : ℚ) * 2 ^ (-53 : ℤ) = n := by
    exact_mod_cast cast_mul_two_pow n 53
  have hplaces : (-53 : ℤ) + (n.log2 + 1 : ℕ) = n.log2 - 52 := by omega
  rw [hx, hplaces] at hnear
  have hunpacked : UnpackedFloat.ofScientific .binary64 n 0 = .finite .positive m e hpos := by
    have hformat : Format.binary64.mantissaBits = 53 := rfl
    refine Eq.trans ?_ hround
    unfold UnpackedFloat.ofScientific
    rw [dif_neg (by omega), if_neg (by decide), if_neg (by push_cast; omega), if_pos le_rfl,
      mul_finite, hformat, Nat.shiftLeft_eq, Int.toNat_zero, pow_zero, mul_one, add_zero]
    rfl
  have hleast := hnear.least
  have hmost := hnear.most
  obtain ⟨places, hwhole⟩ := Int.le.dest (show 0 ≤ e by omega)
  refine ⟨m, e, hpos, hunpacked, by omega, by omega, ⟨m * 2 ^ places, ?_⟩, _, hnear⟩
  rw [← hwhole, zero_add, zpow_natCast]
  push_cast
  rfl

/-- A number that has no more bits than a double is given as many. -/
theorem ofNat_of_lt {n : ℕ} (hpos : 0 < n) (h : n < 2 ^ 53) :
    ∃ m e h, UnpackedFloat.ofNat .binary64 n = .finite .positive m e h ∧ 2 ^ 52 ≤ m ∧ m < 2 ^ 53 ∧
      -52 ≤ e ∧ e ≤ 1 ∧ (m : ℚ) * 2 ^ e = n := by
  have hlog : n.log2 ≤ 52 := Nat.lt_succ_iff.mp ((Nat.log2_lt hpos.ne').mpr h)
  obtain ⟨missing, hmissing⟩ := Nat.le.dest hlog
  have hbits : (n * 2 ^ missing).log2 = 52 + 0 := by
    rw [log2_mul_two_pow hpos]
    omega
  obtain ⟨m, e, hm, hround, hnear⟩ := exists_roundWithAccuracy .positive (-missing) hbits (by omega)
  rw [cast_mul_two_pow, Nat.cast_zero, add_zero] at hnear
  have hunpacked : UnpackedFloat.ofNat .binary64 n = .finite .positive m e hm := by
    have htarget : Format.binary64.targetExponent (totalExponent n 0) = -missing := by
      have hformat : (Format.binary64.mantissaBits : ℤ) = 53 := rfl
      have hmin : Format.binary64.minExponent = -1074 := rfl
      rw [Format.targetExponent, totalExponent, hformat, hmin]
      omega
    have hsign : compare (n : ℤ) 0 = .gt := by
      rw [compare_gt_iff_gt]
      omega
    have hshift : (0 - -(missing : ℤ)).toNat = missing := by omega
    rw [← hround, UnpackedFloat.ofNat, UnpackedFloat.ofInt, UnpackedFloat.normalize, hsign]
    show UnpackedFloat.round _ _ n 0 = _
    rw [UnpackedFloat.round, htarget, decreaseExponent, hshift, Nat.shiftLeft_eq, zero_sub]
  have hleast := hnear.least
  have hmost := hnear.most
  exact ⟨m, e, hm, hunpacked, hnear.low, hnear.high, by omega, by omega, hnear.eq_of_le h.le⟩

theorem roundsTo_mul_one {n m : ℕ} {e : ℤ} (h : 0 < m) (hlow : 2 ^ 52 ≤ m) (hhigh : m < 2 ^ 53)
    (hleast : -52 ≤ e) (hmost : e ≤ 1) (hvalue : (m : ℚ) * 2 ^ e = n) :
    RoundsTo n (UnpackedFloat.mul .binary64 (.finite .positive m e h)
      (.finite .positive (2 ^ 52) (-52) (by decide))) := by
  have hbits : (m * 2 ^ 52).log2 = 52 + 52 := by
    rw [log2_mul_two_pow h, (Nat.log2_eq_iff h.ne').mpr ⟨hlow, hhigh⟩]
  obtain ⟨m', e', hpos, hround, hnear⟩ :=
    exists_roundWithAccuracy (.positive * .positive) (e + -52) hbits (by omega)
  have hplaces : e + -52 + (52 : ℕ) = e := by omega
  have hx : ((m * 2 ^ 52 : ℕ) : ℚ) * 2 ^ (e + -52) = n := by
    rw [← hvalue, zpow_add₀ two_ne_zero]
    push_cast
    ring
  rw [hx, hplaces] at hnear
  have hleast' := hnear.least
  have hmost' := hnear.most
  have hkept : (m' : ℚ) * 2 ^ e' = n := hnear.eq_of_multiple m (by rw [← hvalue]; rfl)
  exact ⟨m', e', hpos, hround, by omega, by omega, ⟨n, hkept⟩, e, hnear⟩

/-- The double made from a number is next to it, whichever way it is made. -/
theorem roundsTo_ofNat {n : ℕ} (hpos : 0 < n) (hlog : n.log2 < 1023) :
    RoundsTo n (Float.ofNat n).toModel.unpack := by
  rcases lt_or_ge n (2 ^ 53) with hless | hmore
  · obtain ⟨m, e, h, hofNat, hlow, hhigh, hleast, hmost, hvalue⟩ := ofNat_of_lt hpos hless
    have hword : n.toUInt64.toNat = n := Nat.mod_eq_of_lt (by omega)
    have hfirst : n.toUInt64.toFloat.toModel.unpack = .finite .positive m e h := by
      rw [toFloat_eq, hword, hofNat]
      exact unpack_pack_normal .positive h hlow hhigh (by omega) (by omega)
    have hrounds := roundsTo_mul_one h hlow hhigh hleast hmost hvalue
    rw [ofNat_eq_of_lt hless, mul_eq, hfirst, unpack_one]
    exact hrounds.unpack_pack.symm ▸ hrounds
  · have hrounds := roundsTo_ofScientific hmore hlog
    rw [ofNat_eq_of_le hmore]
    exact hrounds.unpack_pack.symm ▸ hrounds

/-- The parts of the double that is made from a number other than zero. -/
theorem exists_parts_ofInt {n : ℤ} (hn : n ≠ 0) (hlog : n.natAbs.log2 < 1023) :
    ∃ p places, parts? (Float.ofInt n) = some p ∧ p.sign * n.natAbs = n ∧
      Near n.natAbs places p.units (p.scale - 1075) ∧
      ∃ k : ℕ, (p.units : ℚ) * 2 ^ ((p.scale : ℤ) - 1075) = k := by
  obtain ⟨m, e, hpos, hunpack, hleast, hmost, hwhole, places, hnear⟩ :=
    roundsTo_ofNat (Int.natAbs_pos.mpr hn) hlog
  have hscale : ((e + 1075).toNat : ℤ) - 1075 = e := by omega
  cases n with
  | ofNat n =>
    have hparts : parts? (Float.ofInt (Int.ofNat n)) = some ⟨false, m, (e + 1075).toNat⟩ := by
      have hsame : (Float.ofInt (Int.ofNat n)).toModel.unpack = .finite .positive m e hpos :=
        hunpack
      rw [parts?_eq, hsame]
      rfl
    exact ⟨_, places, hparts, one_mul _, by rwa [hscale], by rwa [hscale]⟩
  | negSucc n =>
    have hparts : parts? (Float.ofInt (Int.negSucc n)) = some ⟨true, m, (e + 1075).toNat⟩ := by
      have hbefore : (Float.ofNat (n + 1)).toModel.unpack = .finite .positive m e hpos := hunpack
      have hneg : (Float.ofInt (Int.negSucc n)).toModel.unpack = .finite .negative m e hpos := by
        show (Float.neg (Float.ofNat (n + 1))).toModel.unpack = _
        rw [neg_eq, hbefore]
        exact unpack_pack_normal .negative hpos hnear.low hnear.high hleast hmost
      rw [parts?_eq, hneg]
      rfl
    exact ⟨_, places, hparts, neg_one_mul _, by rwa [hscale], by rwa [hscale]⟩

theorem parts?_ofInt_zero : parts? (Float.ofInt 0) = some ⟨false, 0, 1⟩ := by decide +kernel

theorem value_zero : (Parts.mk false 0 1).value = 0 := by
  unfold Parts.value
  rw [Nat.cast_zero, zero_mul, mul_zero]

/-- No double is nearer to the number; where another one is as near, the units are even. -/
def Nearest (n : ℚ) (p : Parts) : Prop :=
  ∀ (y : Float) (q : Parts), parts? y = some q → |p.value - n| ≤ |q.value - n| ∧
    (|p.value - n| = |q.value - n| → q.value = p.value ∨ Even p.units)

namespace Nearest

variable {n : ℚ} {p q : Parts} {y : Float}

theorem of_value_eq (h : p.value = n) : Nearest n p := by
  intro y q _
  rw [h, sub_self, abs_zero]
  exact ⟨abs_nonneg _, fun hsame => .inl (sub_eq_zero.mp (abs_eq_zero.mp hsame.symm))⟩

theorem value_eq (h : Nearest n p) (hy : parts? y = some q) (hq : q.value = n) : p.value = n := by
  have hdist := (h y q hy).1
  rw [hq, sub_self, abs_zero] at hdist
  exact sub_eq_zero.mp (abs_nonpos_iff.mp hdist)

/-- Rounding keeps the order: no double between the number and its own is passed over. -/
theorem value_le (h : Nearest n p) (hy : parts? y = some q) (hq : n ≤ q.value) :
    p.value ≤ q.value := by
  by_contra hmore
  have hdist := (h y q hy).1
  rw [abs_of_nonneg (by linarith), abs_of_nonneg (by linarith)] at hdist
  linarith

theorem le_value (h : Nearest n p) (hy : parts? y = some q) (hq : q.value ≤ n) :
    q.value ≤ p.value := by
  by_contra hless
  have hdist := (h y q hy).1
  rw [abs_of_nonpos (by linarith), abs_of_nonpos (by linarith)] at hdist
  linarith

end Nearest

/-- A mantissa next to a number makes the double that is nearest to it. -/
theorem Near.nearest {n : ℤ} {p : Parts} {places : ℤ} (hsign : p.sign * n.natAbs = n)
    (h : Near n.natAbs places p.units (p.scale - 1075)) : Nearest n p := by
  intro y q hq
  -- A negative number is turned around together with the doubles, which keeps their distances.
  have hturned : (p.sign : ℚ) * n = n.natAbs := by
    have hint : p.sign * n = n.natAbs := by
      rw [← hsign, ← mul_assoc, p.sign_mul_self, one_mul, hsign]
    rw [← Int.cast_mul, hint, Int.cast_natCast]
  have hdist : ∀ v : ℚ, |v - n| = |p.sign * v - n.natAbs| := by
    intro v
    rw [← hturned, ← mul_sub, p.abs_sign_mul]
  have hunits : |p.sign * q.sign * q.units| < 2 ^ 53 := by
    rw [abs_mul, abs_mul, p.abs_sign, q.abs_sign, one_mul, one_mul, Nat.abs_cast]
    exact_mod_cast units_lt hq
  have hother : p.sign * q.value =
      (p.sign * q.sign * q.units : ℤ) * 2 ^ ((q.scale : ℤ) - 1075) := by
    rw [Parts.value]
    push_cast
    ring
  obtain ⟨hnear, htie⟩ := h.le_dist hunits (q.scale - 1075)
  rw [hdist, hdist, p.sign_mul_value, hother]
  refine ⟨hnear, fun heq => (htie heq).imp_left fun hsame => ?_⟩
  rw [← hother, ← p.sign_mul_value] at hsame
  have hne : (p.sign : ℚ) ≠ 0 := by
    have habs := p.abs_sign
    exact_mod_cast abs_ne_zero.mp (habs ▸ one_ne_zero)
  exact mul_left_cancel₀ hne hsame

/-- The double made from a whole number is the nearest, and a whole number itself; a number up to
`2 ^ 53` is kept. -/
theorem exists_nearest_ofInt {n : ℤ} (hlog : n.natAbs.log2 < 1023) :
    ∃ (p : Parts) (k : ℤ), parts? (Float.ofInt n) = some p ∧ p.value = k ∧ Nearest n p ∧
      (n.natAbs ≤ 2 ^ 53 → k = n) := by
  by_cases hzero : n = 0
  · subst hzero
    exact ⟨_, 0, parts?_ofInt_zero, value_zero, .of_value_eq value_zero, fun _ => rfl⟩
  · obtain ⟨p, places, hparts, hsign, hnear, k, hk⟩ := exists_parts_ofInt hzero hlog
    refine ⟨p, p.sign * k, hparts, ?_, hnear.nearest hsign, fun hsmall => ?_⟩
    · rw [Parts.value, hk]
      push_cast
      rfl
    · have hkept : k = n.natAbs := by exact_mod_cast hk.symm.trans (hnear.eq_of_le hsmall)
      rw [hkept, hsign]

theorem normal_ofInt {n : ℤ} {p : Parts} (hlog : n.natAbs.log2 < 1023)
    (h : parts? (Float.ofInt n) = some p) :
    n = 0 ∧ p.value = 0 ∨ 2 ^ 52 ≤ p.units ∧ p.units < 2 ^ 53 := by
  by_cases hzero : n = 0
  · subst hzero
    obtain rfl := Option.some.inj (parts?_ofInt_zero.symm.trans h)
    exact .inl ⟨rfl, value_zero⟩
  · obtain ⟨q, places, hq, -, hnear, -⟩ := exists_parts_ofInt hzero hlog
    obtain rfl := Option.some.inj (hq.symm.trans h)
    exact .inr ⟨hnear.low, hnear.high⟩

/-- Whole numbers whose doubles are the same number have the same double. -/
theorem ofInt_eq_of_value_eq {n n' : ℤ} {p q : Parts} (hlog : n.natAbs.log2 < 1023)
    (hlog' : n'.natAbs.log2 < 1023) (hp : parts? (Float.ofInt n) = some p)
    (hq : parts? (Float.ofInt n') = some q) (h : p.value = q.value) :
    Float.ofInt n = Float.ofInt n' := by
  rcases normal_ofInt hlog hp with ⟨rfl, hzero⟩ | ⟨hlow, hhigh⟩
  · rcases normal_ofInt hlog' hq with ⟨rfl, -⟩ | ⟨hlow', -⟩
    · rfl
    · exact absurd (h.symm.trans hzero) (Parts.value_ne_zero (by omega))
  · rcases normal_ofInt hlog' hq with ⟨rfl, hzero⟩ | ⟨hlow', hhigh'⟩
    · exact absurd (h.trans hzero) (Parts.value_ne_zero (by omega))
    · obtain rfl := Parts.eq_of_value_eq hlow hhigh hlow' hhigh' h
      exact eq_of_parts? hp hq

end FeatureFlags.Binary64
