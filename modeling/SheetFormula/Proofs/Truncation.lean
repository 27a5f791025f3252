import Mathlib
import SheetFormula.Builtin.Argument
import SheetFormula.Proofs.Comparison

/-!
# Whole parts of numbers

The value of a double (`Double.value?`) is a rational number or lies beyond all of them;
`Double.truncation?` is what is left of it without its fraction. `Argument.truncate` computes just
that, up to the largest numbers of 64 bits (`Double.truncate_eq`).

The whole part of a double is a double again. So the number that stands for it has exactly this
value (`Double.value?_ofNat_of_truncation?`), although not every whole number is that of a double.
-/

namespace SheetFormula

open Float.Model (Format UnpackedFloat totalExponent)
open Float.Model.UnpackedFloat

namespace Double

/-! ## Finite doubles -/

/-- The double with the given sign, exponent and mantissa as they are stored. -/
def ofFields (s : Sign) (ev : BitVec 11) (mv : BitVec 52) : UnpackedFloat :=
  if ev = -1#11 then
    if mv = 0#52 then .infinity s else .notANumber
  else if ev = 0#11 then
    if nonzero : mv = 0#52 then .zero s
    else .finite s mv.toNat (-1074) (Nat.pos_of_ne_zero fun h => nonzero (BitVec.eq_of_toNat_eq h))
  else
    .finite s (2 ^ 52 + mv.toNat) (ev.toNat - 1075) (by omega)

theorem unpack_eq_ofFields (b : BitVec Format.binary64.numBits) :
    unpack .binary64 b =
      ofFields (Sign.ofBitVec (unpackSign b)) (unpackExponent b) (unpackMantissa b) := by
  have leading (mv : BitVec 52) : (1#1 ++ mv).toNat = 2 ^ 52 + mv.toNat := by
    rw [BitVec.toNat_append, ← Nat.shiftLeft_add_eq_or_of_lt mv.isLt]
    rfl
  rw [unpack, ofFields]
  dsimp only
  split
  · rfl
  · split
    · rename_i subnormal
      split
      · rfl
      · rw [subnormal]
        rfl
    · simp only [leading]
      rfl

theorem ofBitVec_toBitVec (s : Sign) : Sign.ofBitVec s.toBitVec = s := by
  cases s <;> rfl

theorem unpackSign_packComponents (s : Sign) (ev : BitVec 11) (mv : BitVec 52) :
    unpackSign (packComponents .binary64 s ev mv) = s.toBitVec := by
  have front : (s.toBitVec ++ ev ++ mv).extractLsb' 63 1 = (s.toBitVec ++ ev).extractLsb' 11 1 :=
    BitVec.extractLsb'_append_eq_of_le (by decide)
  exact front.trans BitVec.extractLsb'_append_eq_left

theorem unpack_packComponents (s : Sign) (ev : BitVec 11) (mv : BitVec 52) :
    unpack .binary64 (packComponents .binary64 s ev mv) = ofFields s ev mv := by
  rw [unpack_eq_ofFields, unpackSign_packComponents, ofBitVec_toBitVec,
    unpackExponent_packComponents, unpackMantissa_packComponents]

/-- The mantissas and exponents of the finite doubles other than zero. -/
structure Canonical (m : Nat) (e : Int) : Prop where
  pos : 0 < m
  fits : m < 2 ^ 53
  least : -1074 ≤ e
  most : e ≤ 971
  full : 2 ^ 52 ≤ m ∨ e = -1074

theorem canonical_of_ofFields {s t : Sign} {ev : BitVec 11} {mv : BitVec 52} {m : Nat} {e : Int}
    {pos : 0 < m} (h : ofFields s ev mv = .finite t m e pos) : Canonical m e := by
  have mantissaBound := mv.isLt
  have exponentBound := ev.isLt
  rw [ofFields] at h
  split at h
  · split at h <;> cases h
  · rename_i finite
    split at h
    · split at h
      · cases h
      · cases h
        exact ⟨pos, by omega, le_rfl, by decide, .inr rfl⟩
    · rename_i normal
      cases h
      have most : ev.toNat ≠ 2047 := fun all => finite (BitVec.eq_of_toNat_eq all)
      have least : ev.toNat ≠ 0 := fun none => normal (BitVec.eq_of_toNat_eq none)
      exact ⟨pos, by omega, by omega, by omega, .inl (by omega)⟩

theorem canonical_of_unpack {x : Float} {s : Sign} {m : Nat} {e : Int} {pos : 0 < m}
    (h : x.toModel.unpack = .finite s m e pos) : Canonical m e :=
  canonical_of_ofFields ((unpack_eq_ofFields _).symm.trans h)

/-- Canonical parts are stored as they are. -/
theorem Canonical.unpack_pack {m : Nat} {e : Int} (h : Canonical m e) (s : Sign) :
    (Float.Model.pack (.finite s m e h.pos)).unpack = .finite s m e h.pos := by
  obtain ⟨pos, fits, least, most, full⟩ := h
  have biased : e + (Format.binary64.exponentBias : Int) + (52 : Nat) = e + 1075 := by
    change e + (1023 : Nat) + (52 : Nat) = e + 1075
    omega
  change unpack .binary64 (pack .binary64 (.finite s m e pos)) = _
  simp only [pack, biased]
  rw [if_neg (by simp; omega)]
  by_cases normal : 2 ^ 52 ≤ m
  · have bits : m.log2 = 52 := (Nat.log2_eq_iff pos.ne').2 ⟨normal, fits⟩
    have exponent : (BitVec.ofNat 11 (e + 1075).toNat).toNat = (e + 1075).toNat := by
      rw [BitVec.toNat_ofNat]
      omega
    -- The leading bit is not stored.
    have mantissa : 2 ^ 52 + (BitVec.ofNat 52 m).toNat = m := by
      rw [BitVec.toNat_ofNat]
      omega
    have nonzero : BitVec.ofNat 11 (e + 1075).toNat ≠ 0#11 := fun none => by
      rw [none, BitVec.toNat_ofNat] at exponent
      omega
    have finite : BitVec.ofNat 11 (e + 1075).toNat ≠ -1#11 := fun all => by
      rw [all] at exponent
      change 2047 = _ at exponent
      omega
    rw [if_pos (by rw [bits]; rfl), unpack_packComponents, ofFields, if_neg finite, if_neg nonzero]
    simp only [exponent, mantissa]
    congr 1
    omega
  · have bits : m.log2 < 52 := (Nat.log2_lt pos.ne').2 (by omega)
    have mantissa : (BitVec.ofNat 52 m).toNat = m := by
      rw [BitVec.toNat_ofNat]
      omega
    have nonzero : BitVec.ofNat 52 m ≠ 0#52 := fun none => by
      rw [none] at mantissa
      exact pos.ne mantissa
    rw [if_neg (by simp [Format.mantissaBits]; omega), unpack_packComponents, ofFields,
      if_neg (by decide), if_pos rfl, dif_neg nonzero]
    simp only [mantissa, full.resolve_left normal]

theorem unpack_neg (x : Float) : (-x).toModel.unpack = x.toModel.unpack.neg := by
  change (Float.Model.pack x.toModel.unpack.neg).unpack = _
  cases h : x.toModel.unpack with
  | notANumber => rfl
  | infinity s => cases s <;> rfl
  | zero s => cases s <;> rfl
  | finite s m e pos => exact (canonical_of_unpack h).unpack_pack (-s)

/-! ## Exact values -/

/-- The value of a double: a rational number, or what lies beyond all of them. -/
def value? (x : Float) : Option (WithBotTop ℚ) :=
  match x.toModel.unpack with
  | .notANumber => none
  | .infinity .negative => some ⊥
  | .infinity .positive => some ⊤
  | .zero _ => some (WithBotTop.coe 0)
  | .finite s m e _ => some (WithBotTop.coe (s.apply m * 2 ^ e))

theorem isFinite_of_value? {x : Float} {q : ℚ} (h : value? x = some (WithBotTop.coe q)) :
    x.isFinite = true := by
  change x.toModel.unpack.isFinite = true
  rw [value?] at h
  generalize x.toModel.unpack = u at h
  cases u with
  | notANumber => cases h
  | infinity s => cases s <;> cases h
  | zero s => rfl
  | finite s m e pos => rfl

/-- A number without its fraction. -/
def wholePart (q : ℚ) : ℤ :=
  if 0 ≤ q then ⌊q⌋ else ⌈q⌉

/-- The value of a double without its fraction. -/
def truncation? (x : Float) : Option EInt :=
  (value? x).map (WithBot.map (WithTop.map wholePart))

/-! ## Truncation -/

@[simp] theorem wholePart_zero : wholePart 0 = 0 := by
  rw [wholePart, if_pos le_rfl, Int.floor_zero]

theorem wholePart_neg (q : ℚ) : wholePart (-q) = -wholePart q := by
  rcases lt_trichotomy q 0 with below | rfl | above
  · rw [wholePart, wholePart, if_pos (by linarith), if_neg (by linarith), Int.floor_neg]
  · rw [neg_zero, wholePart_zero, neg_zero]
  · rw [wholePart, wholePart, if_neg (by linarith), if_pos above.le, Int.ceil_neg]

/-- What a mantissa has left of the point. -/
def whole (m : Nat) (e : Int) : Nat :=
  m * 2 ^ e.toNat / 2 ^ (-e).toNat

theorem wholePart_eq (s : Sign) (m : Nat) (e : Int) :
    wholePart (s.apply m * 2 ^ e) = s.apply (whole m e) := by
  have positive : wholePart (m * 2 ^ e) = whole m e := by
    rw [wholePart, if_pos (by positivity), whole]
    obtain ⟨k, rfl | rfl⟩ := e.eq_nat_or_neg
    · have exact : (m * 2 ^ (k : Int) : ℚ) = ((m * 2 ^ k : Nat) : ℚ) := by simp
      rw [exact, Int.floor_natCast]
      simp
    · have quotient : (m * 2 ^ (-(k : Int)) : ℚ) = (m : ℚ) / ((2 ^ k : Nat) : ℚ) := by
        simp [div_eq_mul_inv]
      rw [quotient, Rat.floor_natCast_div_natCast]
      simp
  cases s with
  | positive => exact_mod_cast positive
  | negative =>
    have negative := congrArg Neg.neg positive
    rw [← wholePart_neg, ← neg_mul] at negative
    exact_mod_cast negative

theorem shiftRight_mantissa (em : ExtendedMantissa) (k : Nat) :
    (em >>> k).mantissa = em.mantissa / 2 ^ k := by
  induction k with
  | zero => exact (Nat.div_one _).symm
  | succ k ih =>
    change (em >>> k).mantissa / 2 = _
    rw [ih, Nat.div_div_eq_div_mul, Nat.pow_succ]

theorem roundToInt_eq (s : Sign) (m : Nat) (e : Int) :
    roundToInt s m e = s.apply (whole m e) := by
  have back : (0 - (e - (e - 0).toNat)).toNat = (-e).toNat := by omega
  simp only [roundToInt, decreaseExponent, shiftToExponent, back, shiftRight_mantissa]
  rw [ExtendedMantissa.ofMantissaAndAccuracy, Nat.shiftLeft_eq, whole, sub_zero]

theorem toNat_toUInt64 (x : Float) :
    x.toUInt64.toNat = min (toInt 0 (2 ^ 64 - 1) x.toModel.unpack).toNat (2 ^ 64 - 1) := by
  change (UInt64.ofNatClamp (toInt 0 (2 ^ 64 - 1) x.toModel.unpack).toNat).toNat = _
  rw [UInt64.ofNatClamp]
  split
  · rename_i inside
    rw [UInt64.toNat_ofNatLT]
    exact (Nat.min_eq_left (Nat.le_pred_of_lt inside)).symm
  · rename_i outside
    rw [UInt64.toNat_ofNatLT]
    exact (Nat.min_eq_right ((Nat.pred_le _).trans (Nat.le_of_not_lt outside))).symm

theorem lt_zero_iff {x : Float} :
    x < 0 ↔ x.toModel.unpack.compare (.zero .positive) = some .lt :=
  Value.lt_iff_compare

/-- Truncating a number cuts off its fraction. Beyond the largest numbers of 64 bits it gives
these. -/
theorem truncate_eq {x : Float} {n : EInt} (h : truncation? x = some n) :
    (Builtin.Argument.truncate x : EInt) =
      max (WithBotTop.coe (-(2 ^ 64 - 1))) (min n (WithBotTop.coe (2 ^ 64 - 1))) := by
  rw [truncation?, value?] at h
  rw [Builtin.Argument.truncate]
  simp only [lt_zero_iff, toNat_toUInt64, unpack_neg]
  generalize x.toModel.unpack = u at h
  cases u with
  | notANumber => cases h
  | infinity s =>
    cases s with
    | positive =>
      cases h
      rw [if_neg (by decide)]
      rfl
    | negative =>
      cases h
      rw [if_pos (by decide)]
      rfl
  | zero s =>
    cases h
    rw [if_neg (by cases s <;> decide)]
    rfl
  | finite s m e pos =>
    cases h
    change _ = max _ (min (WithBotTop.coe (wholePart _)) _)
    rw [wholePart_eq, ← WithBotTop.coe_monotone.map_min, ← WithBotTop.coe_monotone.map_max]
    refine congrArg WithBotTop.coe ?_
    cases s with
    | positive =>
      rw [if_neg (by simp [UnpackedFloat.compare]), toInt, roundToInt_eq]
      simp only [Sign.apply, Int.ofNat_eq_natCast]
      omega
    | negative =>
      rw [if_pos (by simp [UnpackedFloat.compare]), neg, toInt, roundToInt_eq]
      simp only [Sign.apply, Int.ofNat_eq_natCast]
      omega

/-! ## Whole numbers as doubles -/

theorem log2_mul_two_pow {m : Nat} (pos : 0 < m) (k : Nat) : (m * 2 ^ k).log2 = m.log2 + k := by
  induction k with
  | zero => rw [pow_zero, mul_one, add_zero]
  | succ k ih =>
    rw [pow_succ, ← mul_assoc, mul_comm, Nat.log2_two_mul (by positivity), ih, add_assoc]

theorem Canonical.targetExponent {m : Nat} {e : Int} (h : Canonical m e) :
    Format.binary64.targetExponent (totalExponent m e) = e := by
  have bits : m.log2 < 53 := (Nat.log2_lt h.pos.ne').2 h.fits
  have least := h.least
  change max ((m.log2 : Int) + 1 + e - 53) (-1074) = e
  rcases h.full with full | lowest
  · have full : 52 ≤ m.log2 := (Nat.le_log2 h.pos.ne').2 full
    omega
  · omega

theorem shiftRight_exact (m k : Nat) :
    (⟨m * 2 ^ k, false, false⟩ : ExtendedMantissa) >>> k = ⟨m, false, false⟩ := by
  induction k generalizing m with
  | zero => rw [pow_zero, mul_one]; rfl
  | succ k ih =>
    have double : m * 2 ^ (k + 1) = m * 2 * 2 ^ k := by ring
    change ((⟨m * 2 ^ (k + 1), false, false⟩ : ExtendedMantissa) >>> k).shiftRightOne = _
    rw [double, ih, ExtendedMantissa.shiftRightOne]
    simp

theorem Canonical.shiftToTargetExponent {m : Nat} {e : Int} (h : Canonical m e) (k : Nat) :
    shiftToTargetExponent .binary64 (m * 2 ^ k) (e - k) .exact = (⟨m, false, false⟩, e) := by
  have total : totalExponent (m * 2 ^ k) (e - k) = totalExponent m e := by
    rw [totalExponent, totalExponent, log2_mul_two_pow h.pos]
    push_cast
    ring
  have shift : (e - (e - k)).toNat = k := by omega
  rw [UnpackedFloat.shiftToTargetExponent, total]
  simp only [h.targetExponent, shiftToExponent, shift, ExtendedMantissa.ofMantissaAndAccuracy,
    shiftRight_exact]
  rw [sub_add_cancel]

/-- Rounding keeps the value of a double, however its parts are given. -/
theorem Canonical.roundWithAccuracy {m : Nat} {e : Int} (h : Canonical m e) (s : Sign) (k : Nat) :
    roundWithAccuracy .binary64 s (m * 2 ^ k) (e - k) .exact = .finite s m e h.pos := by
  have again := h.shiftToTargetExponent 0
  rw [pow_zero, mul_one, Nat.cast_zero, sub_zero] at again
  have rounded : (⟨m, false, false⟩ : ExtendedMantissa).roundedMantissa = m := rfl
  rw [UnpackedFloat.roundWithAccuracy]
  simp only [h.shiftToTargetExponent k, rounded, again]
  exact dif_neg h.pos.ne'

theorem canonical_of_lt {n : Nat} (pos : 0 < n) (small : n < 2 ^ 53) :
    Canonical (n * 2 ^ (52 - n.log2)) (-(52 - n.log2 : Nat)) := by
  have short : n.log2 < 53 := (Nat.log2_lt pos.ne').2 small
  have bits : (n * 2 ^ (52 - n.log2)).log2 = 52 := by
    rw [log2_mul_two_pow pos]
    omega
  obtain ⟨full, fits⟩ := (Nat.log2_eq_iff (by positivity)).1 bits
  exact ⟨by positivity, fits, by omega, by omega, .inl full⟩

theorem unpack_toFloat {n : Nat} (pos : 0 < n) (small : n < 2 ^ 53) :
    n.toUInt64.toFloat.toModel.unpack =
      .finite .positive (n * 2 ^ (52 - n.log2)) (-(52 - n.log2 : Nat)) (by positivity) := by
  have canonical := canonical_of_lt pos small
  have kept : n.toUInt64.toNat = n := UInt64.toNat_ofNat_of_lt' (small.trans (by decide))
  have target : Format.binary64.targetExponent (totalExponent n 0) = -(52 - n.log2 : Nat) := by
    have short : n.log2 < 53 := (Nat.log2_lt pos.ne').2 small
    change max ((n.log2 : Int) + 1 + 0 - 53) (-1074) = _
    omega
  have rounded := canonical.roundWithAccuracy .positive 0
  rw [pow_zero, mul_one, Nat.cast_zero, sub_zero] at rounded
  change (Float.Model.pack (UnpackedFloat.normalize .binary64 n.toUInt64.toNat 0 .positive)).unpack
    = _
  rw [kept, UnpackedFloat.normalize, Int.compare_eq_gt.2 (by omega)]
  dsimp only
  rw [Int.toNat_natCast, UnpackedFloat.round, target, decreaseExponent]
  simp only [zero_sub, neg_neg, Int.toNat_natCast, Nat.shiftLeft_eq, rounded]
  exact canonical.unpack_pack .positive

theorem unpack_mul (x y : Float) :
    (x * y).toModel.unpack =
      (Float.Model.pack (mul .binary64 x.toModel.unpack y.toModel.unpack)).unpack :=
  rfl

theorem unpack_ofNat_of_lt {n : Nat} (pos : 0 < n) (small : n < 2 ^ 53) :
    (Float.ofNat n).toModel.unpack =
      .finite .positive (n * 2 ^ (52 - n.log2)) (-(52 - n.log2 : Nat)) (by positivity) := by
  have canonical := canonical_of_lt pos small
  have product : Float.ofNat n = n.toUInt64.toFloat * Float.ofBits 0x3FF0000000000000 := by
    change Float.ofScientific n false 0 = _
    rw [Float.ofScientific, dif_pos ⟨small, by decide⟩]
    rfl
  have one : (Float.ofBits 0x3FF0000000000000).toModel.unpack =
      .finite .positive (2 ^ 52) (-52) (by decide) :=
    rfl
  rw [product, unpack_mul, one, unpack_toFloat pos small, mul]
  change (Float.Model.pack (roundWithAccuracy .binary64 .positive _ (_ - (52 : Nat)) _)).unpack = _
  rw [canonical.roundWithAccuracy .positive 52]
  exact canonical.unpack_pack .positive

theorem unpack_ofNat_of_canonical {m k : Nat} (h : Canonical m k) (large : 2 ^ 53 ≤ m * 2 ^ k) :
    (Float.ofNat (m * 2 ^ k)).toModel.unpack = .finite .positive m k h.pos := by
  have shift : (m * 2 ^ k) <<< 53 * 10 ^ 0 = m * 2 ^ (k + 53) := by
    rw [Nat.shiftLeft_eq]
    ring
  have exponent : (-53 + 0 : Int) = k - (k + 53 : Nat) := by
    omega
  have room : ¬0 < -((2 ^ 11 : Int) + (m * 2 ^ k).log2) := by
    omega
  change (Float.ofScientific (m * 2 ^ k) false 0).toModel.unpack = _
  rw [Float.ofScientific, dif_neg (by omega)]
  change (Float.Model.pack (ofScientific .binary64 (m * 2 ^ k) 0)).unpack = _
  rw [ofScientific, dif_neg (by omega), if_neg (by decide), if_neg room, if_pos le_rfl, mul]
  change (Float.Model.pack (roundWithAccuracy .binary64 .positive
    ((m * 2 ^ k) <<< 53 * 10 ^ 0) (-53 + 0) .exact)).unpack = _
  rw [shift, exponent, h.roundWithAccuracy .positive (k + 53)]
  exact h.unpack_pack .positive

/-- Whole numbers below the power of two that a mantissa ends at are doubles. -/
theorem value?_ofNat {n : Nat} (small : n < 2 ^ 53) :
    value? (Float.ofNat n) = some (WithBotTop.coe (n : ℚ)) := by
  rcases n.eq_zero_or_pos with rfl | pos
  · rfl
  · have scaled : (n * 2 ^ (52 - n.log2) : ℚ) * 2 ^ (-(52 - n.log2 : Nat) : Int) = n := by
      rw [zpow_neg, zpow_natCast, mul_assoc, mul_inv_cancel₀ (by positivity), mul_one]
    rw [value?, unpack_ofNat_of_lt pos small]
    dsimp only [Sign.apply]
    exact_mod_cast congrArg (some ∘ WithBotTop.coe) scaled

theorem whole_natCast (m k : Nat) : whole m k = m * 2 ^ k := by
  simp [whole]

theorem nonneg_of_lt_whole {m : Nat} {e : Int} (h : m < whole m e) : 0 ≤ e := by
  by_contra below
  have drop : m * 2 ^ e.toNat / 2 ^ (-e).toNat ≤ m := by
    rw [Int.toNat_of_nonpos (by omega), pow_zero, mul_one]
    exact Nat.div_le_self ..
  exact absurd h (not_lt.2 drop)

/-- The whole part of a double is a double. -/
theorem value?_ofNat_of_truncation? {x : Float} {n : Nat}
    (h : truncation? x = some (WithBotTop.coe (n : ℤ))) :
    value? (Float.ofNat n) = some (WithBotTop.coe (n : ℚ)) := by
  by_cases small : n < 2 ^ 53
  · exact value?_ofNat small
  · rw [truncation?, value?] at h
    cases u : x.toModel.unpack with
    | notANumber => simp [u] at h
    | infinity s => cases s <;> simp only [u] at h <;> cases h
    | zero s =>
      rw [u] at h
      have zero : wholePart 0 = n := WithBotTop.coe_injective (Option.some.inj h)
      rw [wholePart_zero] at zero
      omega
    | finite s m e pos =>
      have canonical := canonical_of_unpack u
      rw [u] at h
      have parts : s.apply (whole m e) = n :=
        (wholePart_eq s m e).symm.trans (WithBotTop.coe_injective (Option.some.inj h))
      cases s with
      | negative =>
        change -(whole m e : Int) = n at parts
        omega
      | positive =>
        have parts : whole m e = n := Int.ofNat.inj parts
        have fits := canonical.fits
        obtain ⟨k, rfl⟩ := Int.eq_ofNat_of_zero_le (nonneg_of_lt_whole (m := m) (e := e) (by omega))
        rw [whole_natCast] at parts
        subst parts
        rw [value?, unpack_ofNat_of_canonical canonical (by omega)]
        simp [Sign.apply]

end Double

end SheetFormula
