import FeatureFlags.Proofs.Doubles

/-!
The numbers that doubles are. A double is taken apart by its bits, and by unpacking it; both give
the same parts, so what arithmetic does to unpacked doubles is known of their parts. A double is
told by its parts, and a normal one by the number that it is. One that is a whole number is read as
that number.
-/
namespace FeatureFlags.Binary64

open Float.Model Float.Model.UnpackedFloat

section

variable (bits : BitVec Format.binary64.numBits)

theorem toNat_unpackMantissa : (unpackMantissa bits).toNat = bits.toNat % 2 ^ 52 := by
  simp [unpackMantissa, BitVec.extractLsb_toNat]

theorem toNat_unpackExponent : (unpackExponent bits).toNat = bits.toNat >>> 52 % 2048 := by
  simp [unpackExponent, BitVec.extractLsb_toNat]

theorem toNat_unpackSign : (unpackSign bits).toNat = bits.toNat >>> 63 := by
  have hbits : bits.toNat < 2 ^ 64 := bits.isLt
  have hshift : bits.toNat >>> 63 < 2 := by
    rw [Nat.shiftRight_eq_div_pow]
    omega
  simp [unpackSign, BitVec.extractLsb_toNat, Nat.mod_eq_of_lt hshift]

/-- The top bit of a normal double's units is not written. -/
theorem toNat_normal (mantissa : BitVec 52) :
    (1#1 ++ mantissa).toNat = mantissa.toNat + 2 ^ 52 := by
  rw [BitVec.toNat_append, ← Nat.shiftLeft_add_eq_or_of_lt mantissa.isLt]
  exact Nat.add_comm _ _

def isNegative : Sign → Bool
  | .negative => true
  | .positive => false

theorem isNegative_ofBitVec (b : BitVec 1) :
    isNegative (Sign.ofBitVec b) = decide (b.toNat = 1) := by
  revert b; decide

def partsOf : UnpackedFloat → Option Parts
  | .infinity _ | .notANumber => none
  | .zero sign => some ⟨isNegative sign, 0, 1⟩
  | .finite sign mantissa exponent _ => some ⟨isNegative sign, mantissa, (exponent + 1075).toNat⟩

/-- The parts of a double, read off its fields. -/
theorem partsOf_unpack :
    partsOf (UnpackedFloat.unpack .binary64 bits) =
      let field := (bits.toNat >>> 52) % 2048
      let fraction := bits.toNat % 2 ^ 52
      if field = 2047 then none
      else some ⟨bits.toNat >>> 63 = 1, if field = 0 then fraction else fraction + 2 ^ 52,
        if field = 0 then 1 else field⟩ := by
  have hsign := isNegative_ofBitVec (unpackSign bits)
  rw [toNat_unpackSign] at hsign
  have hbias : Format.binary64.exponentBias = 1023 := rfl
  unfold UnpackedFloat.unpack
  dsimp only
  rw [← toNat_unpackExponent, ← toNat_unpackMantissa, hbias]
  by_cases hfull : (unpackExponent bits).toNat = 2047
  · have hones : unpackExponent bits = -1#_ := BitVec.toNat_inj.mp hfull
    rw [if_pos hones, if_pos hfull]
    split <;> rfl
  · have hones : unpackExponent bits ≠ -1#_ := fun h => hfull (congrArg BitVec.toNat h)
    rw [if_neg hones, if_neg hfull]
    by_cases hleast : (unpackExponent bits).toNat = 0
    · have hzeros : unpackExponent bits = 0#_ := BitVec.toNat_inj.mp hleast
      rw [if_pos hzeros, if_pos hleast, if_pos hleast]
      by_cases hempty : (unpackMantissa bits).toNat = 0
      · have hnone : unpackMantissa bits = 0#_ := BitVec.toNat_inj.mp hempty
        rw [dif_pos hnone, partsOf, hsign, hempty]
      · have hsome : unpackMantissa bits ≠ 0#_ := fun h => hempty (congrArg BitVec.toNat h)
        rw [dif_neg hsome, partsOf, hsign, hleast]
        rfl
    · have hzeros : unpackExponent bits ≠ 0#_ := fun h => hleast (congrArg BitVec.toNat h)
      have hscale : ((unpackExponent bits).toNat - ((1023 : ℕ) + (52 : ℕ) : ℤ) + 1075).toNat =
          (unpackExponent bits).toNat := by omega
      rw [if_neg hzeros, if_neg hleast, if_neg hleast, partsOf, hsign, hscale, toNat_normal]

end

/-- Taking a double apart by its bits is unpacking it. -/
theorem parts?_eq (x : Float) : parts? x = partsOf x.toModel.unpack :=
  (partsOf_unpack x.toModel.toBits.toBitVec).symm

theorem unpackSign_packComponents {spec : Format} (sign : Sign)
    (exponent : BitVec spec.exponentBits) (mantissa : BitVec spec.mantissaBitsWithoutImplicit) :
    unpackSign (packComponents spec sign exponent mantissa) = sign.toBitVec := by
  ext i hi
  obtain rfl : i = 0 := by omega
  simp [unpackSign, packComponents, BitVec.getLsbD_append, BitVec.getElem_append]

theorem ofBitVec_toBitVec (sign : Sign) : Sign.ofBitVec sign.toBitVec = sign := by
  cases sign <;> rfl

/-- A normal double is unpacked as it was packed. -/
theorem unpack_pack_normal (sign : Sign) {mantissa : ℕ} {exponent : ℤ} (hpos : 0 < mantissa)
    (hlow : 2 ^ 52 ≤ mantissa) (hhigh : mantissa < 2 ^ 53) (hleast : -1074 ≤ exponent)
    (hmost : exponent ≤ 971) :
    (Float.Model.pack (.finite sign mantissa exponent hpos)).unpack =
      .finite sign mantissa exponent hpos := by
  have hlog : mantissa.log2 + 1 = Format.binary64.mantissaBits :=
    congrArg (· + 1) ((Nat.log2_eq_iff (by omega)).mpr ⟨hlow, hhigh⟩)
  obtain ⟨field, hfield⟩ : ∃ field : ℕ, exponent = field - 1075 :=
    ⟨(exponent + 1075).toNat, by omega⟩
  have hbiased : (exponent + Format.binary64.exponentBias + (52 : ℕ)).toNat = field := by
    have hbias : Format.binary64.exponentBias = 1023 := rfl
    omega
  have hpack : UnpackedFloat.pack .binary64 (.finite sign mantissa exponent hpos) =
      packComponents .binary64 sign (BitVec.ofNat _ field) (BitVec.ofNat _ mantissa) := by
    have hfits : ¬ 2 ^ Format.binary64.exponentBits ≤ field + 1 := by
      show ¬ 2 ^ 11 ≤ field + 1
      omega
    unfold UnpackedFloat.pack
    dsimp only
    rw [hbiased, if_neg hfits, if_pos hlog]
  have hexponent : (BitVec.ofNat 11 field).toNat = field := Nat.mod_eq_of_lt (by omega)
  have hones : BitVec.ofNat 11 field ≠ -1#_ := by
    intro h
    have hnat : field = 2047 := by rw [← hexponent, h]; rfl
    omega
  have hzeros : BitVec.ofNat 11 field ≠ 0#_ := by
    intro h
    have hnat : field = 0 := by rw [← hexponent, h]; rfl
    omega
  have hunits : (1#1 ++ BitVec.ofNat 52 mantissa).toNat = mantissa := by
    rw [toNat_normal, BitVec.toNat_ofNat]
    omega
  show UnpackedFloat.unpack .binary64 (UnpackedFloat.pack .binary64 _) = _
  rw [hpack]
  unfold UnpackedFloat.unpack
  dsimp only
  simp only [unpackExponent_packComponents, unpackMantissa_packComponents,
    unpackSign_packComponents, ofBitVec_toBitVec, hexponent, hunits, if_neg hones, if_neg hzeros]
  congr 1
  have hbias : Format.binary64.exponentBias = 1023 := rfl
  omega

theorem units_lt {x : Float} {p : Parts} (h : parts? x = some p) : p.units < 2 ^ 53 := by
  unfold parts? at h
  dsimp only at h
  split at h
  · cases h
  · obtain rfl := Option.some.inj h
    have hfraction : x.toBits.toNat % (1 <<< 52) < 2 ^ 52 := Nat.mod_lt _ (by decide)
    dsimp only
    split <;> omega

namespace Parts

variable {p q : Parts}

def sign (p : Parts) : ℤ := if p.negative then -1 else 1

/-- The number that a double is. -/
def value (p : Parts) : ℚ := p.sign * (p.units * 2 ^ ((p.scale : ℤ) - 1075))

theorem sign_mul_self (p : Parts) : p.sign * p.sign = 1 := by
  unfold sign
  split <;> rfl

theorem abs_sign (p : Parts) : |p.sign| = 1 := by
  unfold sign
  split <;> rfl

theorem sign_mul_value (p : Parts) : p.sign * p.value = p.units * 2 ^ ((p.scale : ℤ) - 1075) := by
  have hturned : (p.sign : ℚ) * p.sign = 1 := by exact_mod_cast p.sign_mul_self
  rw [value, ← mul_assoc, hturned, one_mul]

theorem abs_sign_mul (p : Parts) (x : ℚ) : |p.sign * x| = |x| := by
  have hone : |(p.sign : ℚ)| = 1 := by exact_mod_cast p.abs_sign
  rw [abs_mul, hone, one_mul]

theorem abs_value (p : Parts) : |p.value| = p.units * 2 ^ ((p.scale : ℤ) - 1075) := by
  rw [← p.abs_sign_mul, sign_mul_value, abs_of_nonneg (by positivity)]

/-- A double that is a whole number has no fraction, and is rounded to itself. -/
theorem of_value_eq {k : ℤ} (h : p.value = k) : p.isIntegral = true ∧ p.sign * p.floor = k := by
  have hsize := p.sign_mul_value
  rw [h] at hsize
  suffices hfloor : p.isIntegral = true ∧ (p.floor : ℤ) = p.sign * k by
    refine ⟨hfloor.1, ?_⟩
    rw [hfloor.2, ← mul_assoc, p.sign_mul_self, one_mul]
  rcases le_or_gt 1075 p.scale with hcoarse | hfine
  · obtain ⟨more, hmore⟩ := Nat.le.dest hcoarse
    have hshift : p.scale - 1075 = more := by omega
    have hpower : (2 : ℚ) ^ ((p.scale : ℤ) - 1075) = (2 ^ more : ℕ) := by
      rw [← hmore]
      push_cast
      rw [add_sub_cancel_left, zpow_natCast]
    rw [hpower] at hsize
    constructor
    · simp [isIntegral, hcoarse]
    · rw [floor, if_pos hcoarse, hshift, Nat.shiftLeft_eq]
      exact_mod_cast hsize.symm
  · obtain ⟨less, hless⟩ := Nat.le.dest hfine.le
    have hshift : 1075 - p.scale = less := by omega
    have hexponent : (p.scale : ℤ) - 1075 = -less := by omega
    have hunits : (p.units : ℤ) = p.sign * k * (2 ^ less : ℕ) := by
      rw [hexponent, zpow_neg, zpow_natCast, ← div_eq_mul_inv, eq_div_iff (by positivity)] at hsize
      exact_mod_cast hsize.symm
    constructor
    · have hdvd : 2 ^ less ∣ p.units := Int.natCast_dvd_natCast.mp (hunits ▸ Dvd.intro_left _ rfl)
      simp [isIntegral, hshift, Nat.shiftLeft_eq, Nat.mod_eq_zero_of_dvd hdvd]
    · have hpos : ((2 ^ less : ℕ) : ℤ) ≠ 0 := by positivity
      rw [floor, if_neg (by omega), hshift, Nat.shiftRight_eq_div_pow, Int.natCast_ediv, hunits,
        Int.mul_ediv_cancel _ hpos]

end Parts

/-- A double that is a whole number is recognized as one. -/
theorem of_value_eq {x : Float} {p : Parts} {k : ℤ} (hparts : parts? x = some p) (h : p.value = k) :
    isIntegral x = true ∧ toInt64 x = clamp k := by
  obtain ⟨hwhole, hfloor⟩ := Parts.of_value_eq h
  unfold isIntegral toInt64
  rw [hparts]
  refine ⟨hwhole, congrArg clamp ?_⟩
  rw [← hfloor, Parts.sign]
  split <;> simp

/-- The bits of a finite double are told by its parts. -/
theorem toBits_of_parts? {x : Float} {p : Parts} (h : parts? x = some p) :
    x.toBits.toNat = (if p.negative then 2 ^ 63 else 0) +
      if p.units < 2 ^ 52 then p.units else p.scale * 2 ^ 52 + (p.units - 2 ^ 52) := by
  have hbits := x.toBits.toNat_lt
  unfold parts? at h
  dsimp only at h
  rw [Nat.shiftRight_eq_div_pow, Nat.shiftRight_eq_div_pow, Nat.one_shiftLeft] at h
  generalize x.toBits.toNat = bits at h hbits ⊢
  split at h
  · cases h
  · have hsign := congrArg Parts.negative (Option.some.inj h)
    have hunits := congrArg Parts.units (Option.some.inj h)
    have hscale := congrArg Parts.scale (Option.some.inj h)
    dsimp only at hsign hunits hscale
    have htop : (if p.negative then 2 ^ 63 else 0) = bits / 2 ^ 63 * 2 ^ 63 := by
      rw [← hsign]
      by_cases hone : bits / 2 ^ 63 = 1
      · rw [if_pos (decide_eq_true hone), hone, one_mul]
      · rw [if_neg (by simpa using hone)]
        omega
    rw [htop]
    by_cases hleast : bits / 2 ^ 52 % 2048 = 0
    · rw [if_pos hleast] at hunits hscale
      split <;> omega
    · rw [if_neg hleast] at hunits hscale
      split <;> omega

/-- Doubles with the same parts are the same. -/
theorem eq_of_parts? {x y : Float} {p : Parts} (hx : parts? x = some p) (hy : parts? y = some p) :
    x = y := by
  have hbits : x.toBits = y.toBits :=
    UInt64.toNat_inj.mp ((toBits_of_parts? hx).trans (toBits_of_parts? hy).symm)
  obtain ⟨⟨word, hvalid⟩⟩ := x
  obtain ⟨⟨other, hvalid'⟩⟩ := y
  obtain rfl : word = other := hbits
  rfl

/-- A normal double is written in one way only. -/
theorem exponent_le_of_eq {m m' : ℕ} {e e' : ℤ} (hlow : 2 ^ 52 ≤ m) (hhigh : m' < 2 ^ 53)
    (h : (m : ℚ) * 2 ^ e = m' * 2 ^ e') : e ≤ e' := by
  by_contra hless
  have hcoarse : e' + 1 ≤ e := by omega
  have hm : (2 ^ 52 : ℚ) ≤ m := by exact_mod_cast hlow
  have hm' : (m' : ℚ) < 2 ^ 53 := by exact_mod_cast hhigh
  have hpos : (0 : ℚ) < 2 ^ e' := by positivity
  have hbelow : (m' : ℚ) * 2 ^ e' < m * 2 ^ e := by
    calc (m' : ℚ) * 2 ^ e'
      _ < 2 ^ 53 * 2 ^ e' := by gcongr
      _ = 2 ^ 52 * 2 ^ (e' + 1) := by
        rw [zpow_add_one₀ two_ne_zero]
        ring
      _ ≤ m * 2 ^ e := by
        gcongr
        norm_num
  exact hbelow.ne' h

namespace Parts

variable {p q : Parts}

theorem value_ne_zero (h : 0 < p.units) : p.value ≠ 0 := by
  have hpos : 0 < |p.value| := by
    rw [abs_value]
    positivity
  exact abs_pos.mp hpos

/-- No two normal doubles are one number. -/
theorem eq_of_value_eq (hp : 2 ^ 52 ≤ p.units) (hp' : p.units < 2 ^ 53) (hq : 2 ^ 52 ≤ q.units)
    (hq' : q.units < 2 ^ 53) (h : p.value = q.value) : p = q := by
  have hsize : |p.value| = |q.value| := by rw [h]
  rw [abs_value, abs_value] at hsize
  have hscale : p.scale = q.scale := by
    have hle := exponent_le_of_eq hp hq' hsize
    have hge := exponent_le_of_eq hq hp' hsize.symm
    omega
  rw [hscale] at hsize
  have hunits : p.units = q.units := by
    exact_mod_cast mul_right_cancel₀ (by positivity) hsize
  have hsign : p.sign = q.sign := by
    rw [value, value, hunits, hscale] at h
    have hpos : 0 < q.units := by omega
    have hne : (q.units : ℚ) * 2 ^ ((q.scale : ℤ) - 1075) ≠ 0 := by positivity
    exact_mod_cast mul_right_cancel₀ hne h
  obtain ⟨negative, units, scale⟩ := p
  obtain ⟨negative', units', scale'⟩ := q
  obtain rfl : units = units' := hunits
  obtain rfl : scale = scale' := hscale
  cases negative <;> cases negative' <;> first | rfl | cases hsign

end Parts

end FeatureFlags.Binary64
