import ErDiagram.Layout.Error
import ErDiagram.Proofs.Except
import Mathlib.Data.Nat.Log
import Mathlib.Tactic.NormNum

/-!
# Rounding to whole numbers gives finite numbers

A coordinate that is rounded stays below the greatest `Float`, and so the whole number that it is
rounded to is one as well. What there is to see is that nothing is rounded on the way back: the
whole number has 53 bits and some zeros after them, and a `Float` holds such a number as it is.
This is read off the model of `Float`, in which a number is unpacked into a mantissa and an
exponent, shifted to 53 bits, and packed again.

The operations of the model are followed on numbers that fit (`Fits`). The exponents that are not
used up in a proof are kept as variables and the format is not unfolded, so that no power of two
is computed on the way.

Little of this is used elsewhere: that exactly the finite numbers can be rounded, that the result
is finite, that a sum is finite only if its first part is, and that what is below a zero is below
zero.
-/

namespace ErDiagram.FloatScalar

open Float.Model (UnpackedFloat Format totalExponent)
open Float.Model.UnpackedFloat (unpackExponent unpackMantissa ExtendedMantissa
  shiftToTargetExponent roundWithAccuracy)

/-! ## Packing

A `Float` is a packed triple of a sign, an exponent and a mantissa, and it is finite unless all
bits of its exponent are set. What is proved about arithmetic here goes down to this. -/

/-- **An unpacked number that a `Float` can hold**: zero, or a mantissa of 53 bits and an exponent
in range. It is what packing does not change, and the bounds are those of the format. -/
inductive Fits : UnpackedFloat → Prop
  | zero (s : UnpackedFloat.Sign) : Fits (.zero s)
  | finite (s : UnpackedFloat.Sign) {m : ℕ} {e : ℤ} (hpos : 0 < m) (hbits : m < 2 ^ 53)
      (hlow : -1074 ≤ e) (hhigh : e ≤ 971) : Fits (.finite s m e hpos)

theorem Fits.isFinite {u : UnpackedFloat} (h : Fits u) : u.isFinite = true := by
  cases h <;> rfl

/-- In a finite number not all bits of the exponent are set. -/
theorem unpackExponent_ne {b : BitVec Format.binary64.numBits}
    (h : (UnpackedFloat.unpack Format.binary64 b).isFinite = true) : unpackExponent b ≠ -1#_ := by
  intro hexp
  unfold UnpackedFloat.unpack at h
  dsimp only at h
  rw [if_pos hexp] at h
  by_cases hmantissa : unpackMantissa b = 0#_
  · rw [if_pos hmantissa] at h
    cases h
  · rw [if_neg hmantissa] at h
    cases h

/-- **What is unpacked fits**, unless all bits of the exponent are set. -/
theorem fits_unpack {b : BitVec Format.binary64.numBits} (hexp : unpackExponent b ≠ -1#_) :
    Fits (UnpackedFloat.unpack Format.binary64 b) := by
  have hlt : (unpackExponent b).toNat < 2048 := (unpackExponent b).isLt
  have hne : (unpackExponent b).toNat ≠ 2047 := by
    intro heq
    exact hexp (BitVec.eq_of_toNat_eq heq)
  have hmant : (unpackMantissa b).toNat < 2 ^ 52 := (unpackMantissa b).isLt
  have hbias : Format.binary64.exponentBias = 1023 := rfl
  unfold UnpackedFloat.unpack
  dsimp only
  rw [if_neg hexp]
  by_cases hzero : unpackExponent b = 0#_
  · rw [if_pos hzero]
    have hexponent : (unpackExponent b).toNat = 0 := congrArg BitVec.toNat hzero
    by_cases hmantissa : unpackMantissa b = 0#_
    · rw [dif_pos hmantissa]
      exact .zero _
    · rw [dif_neg hmantissa]
      exact .finite _ _ (by omega) (by omega) (by omega)
  · have hpos : (unpackExponent b).toNat ≠ 0 := fun heq => hzero (BitVec.eq_of_toNat_eq heq)
    rw [if_neg hzero]
    exact .finite _ _ (1#1 ++ unpackMantissa b).isLt (by omega) (by omega)

/-- **What fits is finite when it is packed.** -/
theorem isFinite_pack {u : UnpackedFloat} (h : Fits u) : (Float.Model.pack u).isFinite = true := by
  refine (fits_unpack ?_).isFinite
  show unpackExponent (UnpackedFloat.pack Format.binary64 u) ≠ _
  cases h with
  | zero s =>
    show unpackExponent (UnpackedFloat.packComponents Format.binary64 s 0 0) ≠ _
    rw [UnpackedFloat.unpackExponent_packComponents]
    decide
  | @finite s m e hpos hbits hlow hhigh =>
    have hbias : (e + Format.binary64.exponentBias + 52).toNat < 2047 := by
      have hbias : Format.binary64.exponentBias = 1023 := rfl
      omega
    unfold UnpackedFloat.pack
    dsimp only
    rw [if_neg (by omega)]
    split
    · rw [UnpackedFloat.unpackExponent_packComponents]
      intro heq
      have hnat := congrArg BitVec.toNat heq
      simp at hnat
      omega
    · simp

/-! ## Rounding -/

/-- Nothing is lost when zeros are shifted out. -/
theorem shiftRight_zeros (m k n : ℕ) :
    (⟨m * 2 ^ (n + k), false, false⟩ : ExtendedMantissa) >>> k = ⟨m * 2 ^ n, false, false⟩ := by
  induction k generalizing n with
  | zero => rfl
  | succ k ih =>
    show ExtendedMantissa.shiftRightOne
      ((⟨m * 2 ^ (n + (k + 1)), false, false⟩ : ExtendedMantissa) >>> k) = _
    rw [show n + (k + 1) = n + 1 + k by omega, ih (n + 1)]
    simp [ExtendedMantissa.shiftRightOne, pow_succ, ← mul_assoc]

theorem log2_zeros {m : ℕ} (hm : m ≠ 0) (k : ℕ) : (m * 2 ^ k).log2 = m.log2 + k := by
  induction k with
  | zero => simp
  | succ k ih =>
    have hne : m * 2 ^ k ≠ 0 := mul_ne_zero hm (pow_ne_zero k two_ne_zero)
    rw [pow_succ', mul_left_comm, Nat.log2_two_mul hne, ih, add_assoc]

/-- A number with zeros after it is shifted to 53 bits, and what is shifted out are zeros. -/
theorem shiftToTargetExponent_zeros {m n j : ℕ} {e : ℤ} (hm : m ≠ 0)
    (hj : (max (m.log2 + (n + j) + e - 52) (-1074) - e).toNat = j) :
    shiftToTargetExponent Format.binary64 (m * 2 ^ (n + j)) e .exact
      = (⟨m * 2 ^ n, false, false⟩, e + j) := by
  have htarget : Format.binary64.targetExponent (totalExponent (m * 2 ^ (n + j)) e)
      = max (m.log2 + (n + j) + e - 52) (-1074) := by
    show max (((m * 2 ^ (n + j)).log2 + 1 + e : ℤ) - 53) (-1074) = _
    rw [log2_zeros hm]
    omega
  unfold shiftToTargetExponent UnpackedFloat.shiftToExponent
  dsimp only
  rw [htarget, hj]
  exact congrArg (·, e + (j : ℤ)) (shiftRight_zeros m j n)

/-- **Rounding keeps a number that fits**, however many zeros are written after it: the zeros are
what is shifted out. -/
theorem fits_roundWithAccuracy (s : UnpackedFloat.Sign) {m k : ℕ} {e : ℤ} (hpos : m ≠ 0)
    (hm : m < 2 ^ 53) (hlow : -1074 ≤ e + k) (hhigh : e + k ≤ 971) :
    Fits (roundWithAccuracy Format.binary64 s (m * 2 ^ k) e .exact) := by
  have hlog : m.log2 < 53 := (Nat.log2_lt hpos).2 hm
  obtain ⟨j, hj⟩ : ∃ j, (max (m.log2 + k + e - 52) (-1074) - e).toNat = j := ⟨_, rfl⟩
  obtain ⟨n, rfl⟩ : ∃ n, k = n + j := Nat.exists_eq_add_of_le' (by omega)
  have hfirst := shiftToTargetExponent_zeros (n := n) (j := j) (e := e) hpos (by omega)
  -- after the first shift there is nothing to round, and so nothing to shift again
  have hround : (⟨m * 2 ^ n, false, false⟩ : ExtendedMantissa).roundedMantissa = m * 2 ^ (n + 0) :=
    rfl
  have hsecond := shiftToTargetExponent_zeros (n := n) (j := 0) (e := e + j) hpos (by omega)
  have hne : m * 2 ^ n ≠ 0 := mul_ne_zero hpos (pow_ne_zero n two_ne_zero)
  have hbits : m * 2 ^ n < 2 ^ 53 := by
    rw [← Nat.log2_lt hne, log2_zeros hpos]
    omega
  unfold roundWithAccuracy
  rw [hfirst]
  dsimp only
  rw [hround, hsecond, dif_neg hne]
  exact .finite s _ hbits (by omega) (by omega)

/-- What fits is multiplied by one. -/
theorem fits_mul_one {u : UnpackedFloat} (h : Fits u) :
    Fits (UnpackedFloat.mul Format.binary64 u (.finite .positive (2 ^ 52) (-52) (by decide))) := by
  cases h with
  | zero s => exact .zero _
  | finite s hpos hbits hlow hhigh =>
    exact fits_roundWithAccuracy _ hpos.ne' hbits (by omega) (by omega)

/-! ## Whole numbers -/

theorem fits_ofNat {n : ℕ} (h : n < 2 ^ 53) : Fits (UnpackedFloat.ofNat Format.binary64 n) := by
  show Fits (UnpackedFloat.normalize Format.binary64 n 0 .positive)
  by_cases hzero : n = 0
  · rw [hzero]
    exact .zero _
  have hgt : compare (n : ℤ) 0 = .gt := Int.compare_eq_gt.2 (by omega)
  have hlog : n.log2 < 53 := (Nat.log2_lt hzero).2 h
  have htarget : Format.binary64.targetExponent (totalExponent n 0) = n.log2 - 52 := by
    show max ((n.log2 + 1 + 0 : ℤ) - 53) (-1074) = _
    omega
  unfold UnpackedFloat.normalize
  rw [hgt]
  show Fits (UnpackedFloat.round Format.binary64 .positive n 0)
  unfold UnpackedFloat.round UnpackedFloat.decreaseExponent
  dsimp only
  rw [htarget, Nat.shiftLeft_eq]
  exact fits_roundWithAccuracy _ hzero h (by omega) (by omega)

/-- A whole number is brought to a `Float` by rounding it once. The format is any, so that
nothing is computed in the proof. -/
theorem ofScientific_zero (spec : Format) {n : ℕ} (hn : n ≠ 0) :
    UnpackedFloat.ofScientific spec n 0
      = roundWithAccuracy spec (.positive * .positive) (n <<< spec.mantissaBits * 10 ^ 0)
        (-spec.mantissaBits + 0) .exact := by
  have hlarge : ¬ (0 : ℤ) > 2 ^ spec.exponentBits := not_lt_of_ge (by positivity)
  have hsmall : ¬ (0 : ℤ) < -((2 ^ spec.exponentBits : ℤ) + n.log2) := not_lt_of_ge (by
    have hpow : (0 : ℤ) < 2 ^ spec.exponentBits := by positivity
    omega)
  unfold UnpackedFloat.ofScientific
  rw [dif_neg hn, if_neg hlarge, if_neg hsmall, if_pos le_rfl]
  rfl

/-- **A whole number of 53 bits with zeros after them is a finite `Float`.** -/
theorem isFinite_ofNat {n m k : ℕ} (hn : n = m * 2 ^ k) (hm : m < 2 ^ 53) (hk : k ≤ 971) :
    (Float.ofNat n).isFinite = true := by
  rw [hn]
  show (Float.ofScientific (m * 2 ^ k) false 0).isFinite = true
  unfold Float.ofScientific
  split
  · next h =>
    -- a short number is multiplied by one
    have hone : (Float.exactlyRepresentablePowersOfTen[0]).toModel.unpack
        = .finite .positive (2 ^ 52) (-52) (by decide) := rfl
    have hnat : (m * 2 ^ k).toUInt64.toNat = m * 2 ^ k := by
      simp
      omega
    have hfits := fits_unpack (unpackExponent_ne (isFinite_pack (fits_ofNat h.1)))
    show (Float.Model.pack (UnpackedFloat.mul Format.binary64
      (Float.Model.pack (UnpackedFloat.ofNat Format.binary64 (m * 2 ^ k).toUInt64.toNat)).unpack
      (Float.exactlyRepresentablePowersOfTen[0]).toModel.unpack)).isFinite = true
    rw [hone, hnat]
    exact isFinite_pack (fits_mul_one hfits)
  · next h =>
    have hpos : m ≠ 0 := by
      rintro rfl
      exact h ⟨by rw [Nat.zero_mul]; decide, by decide⟩
    have hne : m * 2 ^ k ≠ 0 := mul_ne_zero hpos (pow_ne_zero k two_ne_zero)
    have hmant : (m * 2 ^ k) <<< Format.binary64.mantissaBits * 10 ^ 0 = m * 2 ^ (k + 53) := by
      rw [Nat.shiftLeft_eq, pow_zero, mul_one, pow_add, mul_assoc]
      rfl
    have hexp : (-Format.binary64.mantissaBits + 0 : ℤ) = -53 := rfl
    rw [if_neg Bool.false_ne_true]
    refine isFinite_pack ?_
    show Fits (UnpackedFloat.ofScientific Format.binary64 (m * 2 ^ k) 0)
    rw [ofScientific_zero _ hne, hmant, hexp]
    exact fits_roundWithAccuracy _ hpos hm (by omega) (by omega)

theorem Fits.neg {u : UnpackedFloat} (h : Fits u) : Fits u.neg := by
  cases h with
  | zero s => exact .zero _
  | finite s hpos hbits hlow hhigh => exact .finite _ hpos hbits hlow hhigh

theorem isFinite_neg {x : Float} (h : x.isFinite = true) : (-x).isFinite = true :=
  isFinite_pack (fits_unpack (unpackExponent_ne h)).neg

/-! ## Sums and comparisons

Two facts about arithmetic are needed: adding does not make a number finite, and what is below a
number that equals zero is below zero. -/

theorem isFinite_pack_eq_false {u : UnpackedFloat} (h : u.isFinite = false) :
    (Float.Model.pack u).isFinite = false := by
  cases u with
  | infinity s => cases s <;> decide
  | notANumber => decide
  | zero s => cases h
  | finite s => cases h

/-- **A sum is finite only if its first part is.** An infinite number stays infinite whatever is
added, unless the sum is no number at all. -/
theorem isFinite_of_isFinite_add {x y : Float} (h : (x + y).isFinite = true) :
    x.isFinite = true := by
  by_contra hx
  rw [Bool.not_eq_true] at hx
  have hadd : (UnpackedFloat.add Format.binary64 x.toModel.unpack y.toModel.unpack).isFinite
      = false := by
    have hx : x.toModel.unpack.isFinite = false := hx
    generalize x.toModel.unpack = u, y.toModel.unpack = v at hx
    cases u with
    | notANumber => rfl
    | infinity s =>
      cases v with
      | infinity s' =>
        unfold UnpackedFloat.add
        dsimp only
        split <;> rfl
      | _ => rfl
    | zero s => cases hx
    | finite s => cases hx
  have hfalse : (x + y).isFinite = false := isFinite_pack_eq_false hadd
  exact Bool.false_ne_true (hfalse.symm.trans h)

/-- Below a number that equals zero is below zero. -/
theorem lt_zero_of_lt {x y : Float} (hx : (x == 0.0) = true) (h : y < x) : y < 0 := by
  have hzero : (x.toModel.unpack.compare (.zero .positive) == some .eq) = true := hx
  have hlt : (y.toModel.unpack.compare x.toModel.unpack == some .lt) = true :=
    of_decide_eq_true (show decide (y.toModel < x.toModel) = true from h)
  have hneg : (y.toModel.unpack.compare (.zero .positive) == some .lt) = true := by
    generalize x.toModel.unpack = u at hzero hlt
    generalize y.toModel.unpack = v at hlt ⊢
    cases u with
    | zero s =>
      cases v with
      | infinity s => cases s <;> exact hlt
      | finite s => cases s <;> exact hlt
      | _ => exact hlt
    | infinity s => cases s <;> cases hzero
    | finite s => cases s <;> cases hzero
    | notANumber => cases hzero
  exact decide_eq_true hneg

/-- The exponent field of a `Float`. -/
theorem toNat_unpackExponent (b : BitVec Format.binary64.numBits) :
    (unpackExponent b).toNat = b.toNat / Nat.pow 2 52 % 2048 := by
  unfold unpackExponent
  rw [BitVec.toNat_cast, BitVec.extractLsb_toNat, Nat.shiftRight_eq_div_pow]
  rfl

end ErDiagram.FloatScalar

namespace ErDiagram

/-! ## Rounding a coordinate -/

/-- The exact value of a `Float` has at most 53 bits, and its exponent is in range. -/
theorem Dyadic.bounds_of_ofFloat? {x : Float} {d : Dyadic} (h : Dyadic.ofFloat? x = some d) :
    d.mantissa < 2 ^ 53 ∧ d.exponent ≤ 971 := by
  unfold Dyadic.ofFloat? at h
  dsimp only at h
  have hpow : Nat.pow 2 52 = 2 ^ 52 := rfl
  have hfield := Nat.mod_lt (x.toBits.toNat / Nat.pow 2 52) (show 2048 > 0 by decide)
  have hfraction := Nat.mod_lt x.toBits.toNat (show 2 ^ 52 > 0 by decide)
  split at h
  · cases h
  · split at h
    · rw [← Option.some.inj h]
      exact ⟨by simp only [hpow]; omega, by simp⟩
    · rw [← Option.some.inj h]
      refine ⟨by simp only [hpow]; omega, ?_⟩
      show ((x.toBits.toNat / Nat.pow 2 52 % 2048 : ℕ) : ℤ) - 1075 ≤ 971
      omega

theorem roundDiv_one (n : ℕ) : roundDiv n 1 = n := by
  unfold roundDiv
  simp [Nat.mod_one]

theorem roundDiv_le (num den : ℕ) : roundDiv num den ≤ num / den + 1 := by
  unfold roundDiv
  dsimp only
  split
  · omega
  · split
    · omega
    · split <;> omega

/-- **Rounding to a whole number gives a finite number**, if it gives one. A number with bits
after the point has fewer before it, so that rounding up still gives one of 53 bits. -/
theorem isFinite_nearestWhole {x y : Float} (h : nearestWhole x = .ok y) :
    y.isFinite = true := by
  unfold nearestWhole at h
  split at h
  · cases h
  · next d hd =>
    obtain ⟨hbits, hexp⟩ := Dyadic.bounds_of_ofFloat? hd
    have hfinite : (Float.ofNat (roundDiv d.fraction.1 d.fraction.2)).isFinite = true := by
      unfold Dyadic.fraction
      cases he : d.exponent with
      | ofNat e =>
        -- the number is whole
        have hsame : roundDiv (d.mantissa * Nat.pow 2 e) 1 = d.mantissa * 2 ^ e := roundDiv_one _
        rw [he] at hexp
        have hle : (e : ℤ) ≤ 971 := hexp
        exact FloatScalar.isFinite_ofNat hsame hbits (by omega)
      | negSucc e =>
        -- it has fewer bits than before, even if it is rounded up
        show (Float.ofNat (roundDiv d.mantissa (Nat.pow 2 (e + 1)))).isFinite = true
        have hround := roundDiv_le d.mantissa (Nat.pow 2 (e + 1))
        have hhalf : d.mantissa / Nat.pow 2 (e + 1) ≤ d.mantissa / 2 :=
          Nat.div_le_div_left (Nat.le_self_pow e.succ_ne_zero 2) (by decide)
        exact FloatScalar.isFinite_ofNat (Nat.mul_one _).symm (by omega) (Nat.zero_le _)
    dsimp only at h
    rw [← Except.ok.inj h]
    split
    · exact FloatScalar.isFinite_neg hfinite
    · exact hfinite

/-- A `Float` has an exact value exactly if it is finite. -/
theorem Dyadic.exists_ofFloat?_iff {x : Float} :
    (∃ d, Dyadic.ofFloat? x = some d) ↔ x.isFinite = true := by
  have hfield : x.toBits.toNat / Nat.pow 2 52 % 2048 = 2047 ↔
      @Float.Model.UnpackedFloat.unpackExponent .binary64 x.toBits.toBitVec = -1#_ := by
    rw [← BitVec.toNat_inj, FloatScalar.toNat_unpackExponent]
    rfl
  unfold Dyadic.ofFloat?
  dsimp only
  constructor
  · rintro ⟨d, hd⟩
    split at hd
    · cases hd
    · next hne => exact (FloatScalar.fits_unpack (mt hfield.2 hne)).isFinite
  · intro h
    rw [if_neg (mt hfield.1 (FloatScalar.unpackExponent_ne h))]
    split <;> exact ⟨_, rfl⟩

/-- **Exactly the finite numbers can be rounded.** -/
theorem exists_nearestWhole_iff {x : Float} :
    (∃ y, nearestWhole x = .ok y) ↔ x.isFinite = true := by
  rw [← Dyadic.exists_ofFloat?_iff]
  unfold nearestWhole
  cases Dyadic.ofFloat? x with
  | none => exact ⟨nofun, nofun⟩
  | some d => exact ⟨fun _ => ⟨d, rfl⟩, fun _ => ⟨_, rfl⟩⟩

/-- **Exactly the finite points can be rounded.** -/
theorem Point.exists_snapped_iff {p : Point Float} :
    (∃ q, p.snapped = .ok q) ↔ p.isFinite = true := by
  unfold Point.snapped Point.nearestWhole Point.isFinite
  rw [Bool.and_eq_true, ← exists_nearestWhole_iff, ← exists_nearestWhole_iff]
  constructor
  · rintro ⟨q, hq⟩
    obtain ⟨x, hx, hq⟩ := Except.bind_eq_ok.1 (Except.mapError_eq_ok.1 hq)
    obtain ⟨y, hy, -⟩ := Except.bind_eq_ok.1 hq
    exact ⟨⟨x, hx⟩, y, hy⟩
  · rintro ⟨⟨x, hx⟩, y, hy⟩
    exact ⟨⟨x, y⟩, by rw [hx, hy]; rfl⟩

/-- **A point with whole coordinates is finite.** -/
theorem Point.isFinite_of_snapped {p q : Point Float} (h : p.snapped = .ok q) :
    q.isFinite = true := by
  have hwhole : p.nearestWhole = .ok q := Except.mapError_eq_ok.1 h
  unfold Point.nearestWhole at hwhole
  obtain ⟨x, hx, hwhole⟩ := Except.bind_eq_ok.1 hwhole
  obtain ⟨y, hy, hwhole⟩ := Except.bind_eq_ok.1 hwhole
  rw [← Except.ok.inj hwhole]
  show (x.isFinite && y.isFinite) = true
  rw [isFinite_nearestWhole hx, isFinite_nearestWhole hy]
  rfl

end ErDiagram
