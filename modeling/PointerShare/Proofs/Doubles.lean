/-
# Doubles that are read are finite

Reading by scaling multiplies or divides a whole number below `2 ^ 64` by powers
of ten. What is too large is refused after a multiplication. A division by a
power of ten from ten on makes a double no larger, whatever the rounding, so
nothing else gets out of range, and no infinite double is ever read.

What rounding does is followed in the logical model of doubles: a mantissa of
`log2` bits at an exponent is shifted to at most 53 bits, rounded, and shifted
again if that carried.

Key definitions: `Decimal.AtMost`, `Decimal.total`.
Key theorems: `Decimal.atMost_round`, `Decimal.atMost_pack`,
`Decimal.le_total_powerOfTen`, `Decimal.atMost_div`,
`Json.Number.isFinite_of_float?`.
-/
import PointerShare.Json.Value
import Mathlib

namespace PointerShare

namespace Decimal

open Float.Model Float.Model.UnpackedFloat

/-! ## Rounding -/

/-- Zero, or finite with an exponent that is not above `e`. -/
def AtMost (e : Int) : UnpackedFloat → Prop
  | .zero _ => True
  | .finite _ _ k _ => k ≤ e
  | _ => False

theorem AtMost.mono {e e' : Int} (he : e ≤ e') : ∀ {x : UnpackedFloat}, AtMost e x → AtMost e' x
  | .zero _, _ => trivial
  | .finite _ _ _ _, h => Int.le_trans h he

theorem AtMost.isFinite {e : Int} : ∀ {x : UnpackedFloat}, AtMost e x → x.isFinite = true
  | .zero _, _ => rfl
  | .finite _ _ _ _, _ => rfl

theorem mantissa_shift (k : Nat) (m : ExtendedMantissa) : (m >>> k).mantissa = m.mantissa / 2 ^ k := by
  induction k with
  | zero => exact (Nat.div_one _).symm
  | succ k ih =>
    show (ExtendedMantissa.shiftRightOne (m >>> k)).mantissa = _
    rw [ExtendedMantissa.shiftRightOne, ih, Nat.div_div_eq_div_mul, Nat.pow_succ]

theorem mantissa_of (m : Nat) (a : Accuracy) :
    (ExtendedMantissa.ofMantissaAndAccuracy m a).mantissa = m := by
  cases a with
  | exact => rfl
  | inexact o => cases o <;> rfl

/-- Rounding adds one at most. -/
theorem rounded_bounds (m : ExtendedMantissa) :
    m.mantissa ≤ m.roundedMantissa ∧ m.roundedMantissa ≤ m.mantissa + 1 := by
  unfold ExtendedMantissa.roundedMantissa
  cases m.accuracy with
  | exact => exact ⟨Nat.le_refl _, Nat.le_succ _⟩
  | inexact o =>
    cases o with
    | lt => exact ⟨Nat.le_refl _, Nat.le_succ _⟩
    | eq =>
      show m.mantissa ≤ m.mantissa + m.mantissa % 2 ∧ m.mantissa + m.mantissa % 2 ≤ m.mantissa + 1
      omega
    | gt => exact ⟨Nat.le_succ _, Nat.le_refl _⟩

/-- The exponent to which a mantissa of `log` bits is shifted. -/
def aim (log : Nat) (e : Int) : Int := max (log + 1 + e - 53) (-1074)

/-- Rounding is two shifts. -/
theorem roundWithAccuracy_eq (s : Sign) (m : Nat) (e : Int) (a : Accuracy) :
    ∃ r, m / 2 ^ (aim m.log2 e - e).toNat ≤ r ∧ r ≤ m / 2 ^ (aim m.log2 e - e).toNat + 1 ∧
      let e₁ := e + (aim m.log2 e - e).toNat
      let k := (aim r.log2 e₁ - e₁).toNat
      (r / 2 ^ k = 0 ∧ roundWithAccuracy .binary64 s m e a = .zero s) ∨
        ∃ h, roundWithAccuracy .binary64 s m e a = .finite s (r / 2 ^ k) (e₁ + k) h := by
  let em := ExtendedMantissa.ofMantissaAndAccuracy m a >>> (aim m.log2 e - e).toNat
  have hem : em.mantissa = m / 2 ^ (aim m.log2 e - e).toNat := by
    rw [mantissa_shift, mantissa_of]
  obtain ⟨hlow, hhigh⟩ := rounded_bounds em
  refine ⟨em.roundedMantissa, hem ▸ hlow, hem ▸ hhigh, ?_⟩
  intro e₁ k
  have hfinal : (ExtendedMantissa.ofMantissaAndAccuracy em.roundedMantissa .exact >>> k).mantissa =
      em.roundedMantissa / 2 ^ k := by
    rw [mantissa_shift, mantissa_of]
  by_cases hzero : em.roundedMantissa / 2 ^ k = 0
  · exact .inl ⟨hzero, dif_pos (hfinal.trans hzero)⟩
  · refine .inr ⟨Nat.pos_of_ne_zero hzero, ?_⟩
    have hround : roundWithAccuracy .binary64 s m e a = .finite s _ (e₁ + k)
        (Nat.pos_of_ne_zero fun h => hzero (hfinal.symm.trans h)) :=
      dif_neg fun h => hzero (hfinal.symm.trans h)
    rw [hround]
    congr 1

/-- Rounding raises an exponent by one at most, beyond what it takes to get down to 53 bits. -/
theorem atMost_round (s : Sign) (m : Nat) (e : Int) (a : Accuracy) :
    AtMost (max (max e (m.log2 + 1 + e - 52)) (-1074)) (roundWithAccuracy .binary64 s m e a) := by
  obtain ⟨r, -, hr, hround⟩ := roundWithAccuracy_eq s m e a
  dsimp only at hround
  rcases hround with ⟨-, hround⟩ | ⟨h, hround⟩
  · rw [hround]
    trivial
  · rw [hround]
    have hm := @Nat.lt_log2_self m
    -- the bits that are left after the first shift, and a carry
    have hlog : r.log2 ≤ m.log2 + 1 - (aim m.log2 e - e).toNat := by
      generalize (aim m.log2 e - e).toNat = k at hr
      have hr' : r < 2 ^ (m.log2 + 1 - k + 1) := by
        have hbits : m / 2 ^ k + 1 ≤ 2 ^ (m.log2 + 1 - k) := by
          by_cases hk : k ≤ m.log2 + 1
          · refine Nat.succ_le_of_lt (Nat.div_lt_of_lt_mul ?_)
            rwa [← Nat.pow_add, Nat.add_sub_of_le hk]
          · have hsmall : m / 2 ^ k = 0 :=
              Nat.div_eq_of_lt (Nat.lt_of_lt_of_le hm (Nat.pow_le_pow_right (by decide) (by omega)))
            have hnone : m.log2 + 1 - k = 0 := Nat.sub_eq_zero_of_le (by omega)
            simp [hsmall, hnone]
        have hgrow := Nat.pow_lt_pow_right (by decide : 1 < 2) (Nat.lt_succ_self (m.log2 + 1 - k))
        omega
      by_cases hzero : r = 0
      · rw [hzero]
        exact Nat.zero_le _
      · have := (Nat.log2_lt hzero).mpr hr'
        omega
    show e + _ + _ ≤ _
    unfold aim at *
    omega

/-- A mantissa of 53 bits or more keeps its 53 bits, and the number its size, unless it is too small
for that. -/
theorem full_round (s : Sign) {m : Nat} {e : Int} (a : Accuracy) (hm : 2 ^ 52 ≤ m)
    (he : -1021 ≤ m.log2 + 1 + e) :
    ∃ r k h, roundWithAccuracy .binary64 s m e a = .finite s r k h ∧ 2 ^ 52 ≤ r ∧ r < 2 ^ 53 ∧
      m.log2 + 1 + e - 53 ≤ k := by
  have hpos : m ≠ 0 := by omega
  have hbits : 52 ≤ m.log2 := (Nat.le_log2 hpos).mpr hm
  obtain ⟨r, hlow, hhigh, hround⟩ := roundWithAccuracy_eq s m e a
  dsimp only at hround
  have hshift : (aim m.log2 e - e).toNat = m.log2 - 52 := by unfold aim; omega
  rw [hshift] at hlow hhigh hround
  have hlog := Nat.log2_self_le hpos
  have hlog' := @Nat.lt_log2_self m
  have hfirst : 2 ^ 52 ≤ m / 2 ^ (m.log2 - 52) ∧ m / 2 ^ (m.log2 - 52) < 2 ^ 53 := by
    constructor
    · rw [Nat.le_div_iff_mul_le (Nat.two_pow_pos _), ← Nat.pow_add]
      rwa [Nat.add_sub_of_le hbits]
    · refine Nat.div_lt_of_lt_mul ?_
      rw [← Nat.pow_add]
      have : m.log2 - 52 + 53 = m.log2 + 1 := by omega
      rwa [this]
  have hr : r ≠ 0 := by omega
  -- rounding up may carry into a bit of its own, and only then the second shift is by one
  have hsecond : 2 ^ 52 ≤ r / 2 ^ (aim r.log2 (e + (m.log2 - 52 : Nat)) -
        (e + (m.log2 - 52 : Nat))).toNat ∧
      r / 2 ^ (aim r.log2 (e + (m.log2 - 52 : Nat)) - (e + (m.log2 - 52 : Nat))).toNat < 2 ^ 53 := by
    by_cases hcarry : r < 2 ^ 53
    · have hlogr : r.log2 < 53 := (Nat.log2_lt hr).mpr hcarry
      have hnone : (aim r.log2 (e + (m.log2 - 52 : Nat)) - (e + (m.log2 - 52 : Nat))).toNat = 0 := by
        unfold aim
        omega
      rw [hnone, Nat.pow_zero, Nat.div_one]
      exact ⟨by omega, hcarry⟩
    · have hcarried : r = 2 ^ 53 := by omega
      have hlogr : r.log2 = 53 := by rw [hcarried]; decide
      have hone : (aim r.log2 (e + (m.log2 - 52 : Nat)) - (e + (m.log2 - 52 : Nat))).toNat = 1 := by
        unfold aim
        omega
      rw [hone, hcarried]
      decide
  rcases hround with ⟨hzero, -⟩ | ⟨h, hround⟩
  · rw [hzero] at hsecond
    exact absurd hsecond.1 (by decide)
  · exact ⟨_, _, h, hround, hsecond.1, hsecond.2, by omega⟩

/-! ## Packing -/

/-- The exponent field of a double that is neither infinite nor no number. -/
theorem unpack_components (s : Sign) (x : BitVec 11) (f : BitVec 52) (hx : x ≠ -1#11) :
    AtMost (max ((x.toNat : Int) - 1075) (-1074))
        (UnpackedFloat.unpack .binary64 (packComponents .binary64 s x f)) ∧
      (x ≠ 0#11 → ∃ s' m h, UnpackedFloat.unpack .binary64 (packComponents .binary64 s x f) =
        .finite s' m ((x.toNat : Int) - 1075) h ∧ 2 ^ 52 ≤ m) := by
  have hbias : (Format.binary64.exponentBias : Int) + (52 : Nat) = 1075 := rfl
  rw [UnpackedFloat.unpack]
  simp only [unpackExponent_packComponents, unpackMantissa_packComponents, hbias, if_neg hx]
  by_cases hzero : x = 0#11
  · subst hzero
    refine ⟨?_, fun h => absurd rfl h⟩
    rw [if_pos rfl]
    split
    · trivial
    · exact Int.le_max_right _ _
  · rw [if_neg hzero]
    have hlow : 2 ^ 52 ≤ (1#1 ++ f).toNat := by
      rw [BitVec.toNat_append]
      exact Nat.le_trans (by decide) Nat.left_le_or
    exact ⟨Int.le_max_left _ _,
      fun _ => ⟨_, _, Nat.lt_of_lt_of_le (Nat.two_pow_pos 52) hlow, rfl, hlow⟩⟩

/-- A finite number that fits its field is packed with its exponent, or with none when it has fewer
than 53 bits. -/
theorem pack_finite {s : Sign} {m : Nat} {k : Int} (hm : 0 < m) (hk : k ≤ 971) :
    ∃ f, UnpackedFloat.pack .binary64 (.finite s m k hm) =
      packComponents .binary64 s
        (if m.log2 + 1 = 53 then BitVec.ofNat 11 (k + 1075).toNat else 0#11) f := by
  have hbias : k + (Format.binary64.exponentBias : Int) + (52 : Nat) = k + 1075 := by
    show k + (1023 : Nat) + (52 : Nat) = _
    omega
  have hfits : ¬2 ^ 11 ≤ (k + 1075).toNat + 1 := by omega
  refine ⟨BitVec.ofNat 52 m, ?_⟩
  rw [UnpackedFloat.pack]
  simp only [hbias, if_neg hfits]
  by_cases hbits : m.log2 + 1 = Format.binary64.mantissaBits
  · rw [if_pos hbits, if_pos (show m.log2 + 1 = 53 from hbits)]
  · rw [if_neg hbits, if_neg (show ¬m.log2 + 1 = 53 from hbits)]

theorem ofNat_ne_ones {n : Nat} (hn : n < 2047) : BitVec.ofNat 11 n ≠ -1#11 := by
  intro h
  have := congrArg BitVec.toNat h
  simp at this
  omega

/-- A packed number that fits its field is unpacked without getting larger. -/
theorem atMost_pack {e : Int} (hlow : -1074 ≤ e) (hhigh : e ≤ 971) : ∀ {x : UnpackedFloat},
    AtMost e x → AtMost e (Float.Model.pack x).unpack
  | .zero s, _ => by
    show AtMost e (UnpackedFloat.unpack .binary64 (packComponents .binary64 s 0#11 0#52))
    exact (unpack_components s 0#11 0#52 (by decide)).1.mono (by simp; omega)
  | .finite s m k hm, hk => by
    have hk : k ≤ e := hk
    obtain ⟨f, hpack⟩ := @pack_finite s m k hm (by omega)
    show AtMost e (UnpackedFloat.unpack .binary64 (UnpackedFloat.pack .binary64 (.finite s m k hm)))
    rw [hpack]
    split
    · refine (unpack_components s _ f (ofNat_ne_ones (by omega))).1.mono ?_
      rw [BitVec.toNat_ofNat, Nat.mod_eq_of_lt (by omega)]
      omega
    · exact (unpack_components s 0#11 f (by decide)).1.mono (by simp; omega)

/-- A packed number of 53 bits is unpacked with its exponent. -/
theorem full_pack {s : Sign} {m : Nat} {k : Int} (hm : 0 < m) (hlow : 2 ^ 52 ≤ m) (hhigh : m < 2 ^ 53)
    (hk : -1074 ≤ k) (hk' : k ≤ 971) :
    ∃ s' m' h, (Float.Model.pack (.finite s m k hm)).unpack = .finite s' m' k h ∧ 2 ^ 52 ≤ m' := by
  have hbits : m.log2 + 1 = 53 := by
    have := (Nat.le_log2 (Nat.ne_of_gt hm)).mpr hlow
    have := (Nat.log2_lt (Nat.ne_of_gt hm)).mpr hhigh
    omega
  obtain ⟨f, hpack⟩ := @pack_finite s m k hm hk'
  rw [if_pos hbits] at hpack
  have hfield : (BitVec.ofNat 11 (k + 1075).toNat).toNat = (k + 1075).toNat := by
    rw [BitVec.toNat_ofNat, Nat.mod_eq_of_lt (by omega)]
  obtain ⟨s', m', h, hunpack, hm'⟩ := (unpack_components s (BitVec.ofNat 11 (k + 1075).toNat) f
    (ofNat_ne_ones (by omega))).2 (by
      intro hzero
      rw [hzero] at hfield
      simp at hfield
      omega)
  have hexp : ((BitVec.ofNat 11 (k + 1075).toNat).toNat : Int) - 1075 = k := by omega
  rw [hexp] at hunpack
  refine ⟨s', m', h, ?_, hm'⟩
  rw [← hunpack, ← hpack]
  rfl

/-- The size of a finite number: it is below `2 ^ total`, and not by half. -/
def total : UnpackedFloat → Int
  | .finite _ m e _ => m.log2 + 1 + e
  | _ => 0

/-- What a double can be. -/
theorem unpack_cases (x : Float.Model) : x.isFinite = true →
    AtMost 971 x.unpack ∧ ∀ s m k h, x.unpack = .finite s m k h → m < 2 ^ 53 := by
  intro hfinite
  have hfinite : x.unpack.isFinite = true := hfinite
  have hbias : (Format.binary64.exponentBias : Int) + (52 : Nat) = 1075 := rfl
  rw [Float.Model.unpack, UnpackedFloat.unpack] at *
  simp only [hbias] at *
  split
  · rename_i hones
    rw [if_pos hones] at hfinite
    split at hfinite <;> cases hfinite
  · rename_i hones
    split
    · rename_i hzero
      split
      · exact ⟨trivial, nofun⟩
      · refine ⟨?_, fun s m k h heq => ?_⟩
        · rw [hzero]
          show ((0#11).toNat : Int) - 1075 + 1 ≤ 971
          decide
        · cases heq
          exact Nat.lt_trans (BitVec.isLt _) (by decide)
    · refine ⟨?_, fun s m k h heq => ?_⟩
      · generalize @unpackExponent .binary64 _ = field at hones ⊢
        have hlt : field.toNat < 2048 := field.isLt
        have hne : field.toNat ≠ 2047 := fun heq => hones (BitVec.eq_of_toNat_eq heq)
        show (field.toNat : Int) - 1075 ≤ 971
        omega
      · cases heq
        exact BitVec.isLt _

/-- A finite double has 53 bits at most. -/
theorem total_unpack {x : Float.Model} {e : Int} (h : AtMost e x.unpack) (he : -53 ≤ e) :
    total x.unpack ≤ 53 + e := by
  cases hx : x.unpack with
  | finite s m k hm =>
    have hbits := (unpack_cases x h.isFinite).2 s m k hm hx
    rw [hx] at h
    have hk : k ≤ e := h
    have := (Nat.log2_lt (Nat.ne_of_gt hm)).mpr hbits
    show (m.log2 : Int) + 1 + k ≤ _
    omega
  | _ =>
    show (0 : Int) ≤ 53 + e
    omega

/-! ## Arithmetic -/

theorem log2_div_le (m : Nat) {n : Nat} (hn : 0 < n) (k : Nat) :
    (m <<< k / n).log2 ≤ m.log2 + k - n.log2 := by
  rw [Nat.shiftLeft_eq]
  by_cases hzero : m * 2 ^ k / n = 0
  · rw [hzero]
    exact Nat.zero_le _
  have hle : n ≤ m * 2 ^ k := by
    by_contra hlt
    exact hzero (Nat.div_eq_of_lt (by omega))
  have hm : m * 2 ^ k < 2 ^ (m.log2 + k + 1) := by
    have h : 2 ^ (m.log2 + k + 1) = 2 ^ (m.log2 + 1) * 2 ^ k := by
      rw [← Nat.pow_add]
      congr 1
      omega
    rw [h]
    exact Nat.mul_lt_mul_of_pos_right Nat.lt_log2_self (Nat.two_pow_pos k)
  have hlog : 2 ^ n.log2 ≤ n := Nat.log2_self_le (Nat.ne_of_gt hn)
  have hbits : n.log2 < m.log2 + k + 1 :=
    (Nat.pow_lt_pow_iff_right (by decide : 1 < 2)).mp (by omega)
  have hquotient : m * 2 ^ k / n < 2 ^ (m.log2 + k - n.log2 + 1) := by
    refine Nat.div_lt_of_lt_mul (Nat.lt_of_lt_of_le hm ?_)
    have h : 2 ^ (m.log2 + k + 1) = 2 ^ n.log2 * 2 ^ (m.log2 + k - n.log2 + 1) := by
      rw [← Nat.pow_add]
      congr 1
      omega
    rw [h]
    exact Nat.mul_le_mul_right _ hlog
  have := (Nat.log2_lt hzero).mpr hquotient
  omega

/-- A quotient by a number from two on is no larger. -/
theorem atMost_div {x y : Float.Model} {e : Int} (hx : AtMost e x.unpack) (he : -53 ≤ e)
    (he' : e ≤ 971) (hy : y.unpack.isFinite = true) (htotal : 2 ≤ total y.unpack) :
    AtMost e (x / y).unpack := by
  refine atMost_pack (by omega) he' ?_
  have hbits := total_unpack hx he
  cases hyu : y.unpack with
  | notANumber =>
    rw [hyu] at hy
    cases hy
  | infinity s =>
    rw [hyu] at hy
    cases hy
  | zero s =>
    rw [hyu] at htotal
    have htotal : (2 : Int) ≤ 0 := htotal
    omega
  | finite s₂ m₂ e₂ hm₂ =>
    rw [hyu] at htotal
    cases hxu : x.unpack with
    | notANumber =>
      rw [hxu] at hx
      exact hx.elim
    | infinity s =>
      rw [hxu] at hx
      exact hx.elim
    | zero s => trivial
    | finite s₁ m₁ e₁ hm₁ =>
      rw [hxu] at hx hbits
      have he₁ : e₁ ≤ e := hx
      have htotal₁ : (m₁.log2 : Int) + 1 + e₁ ≤ 53 + e := hbits
      have htotal₂ : 2 ≤ (m₂.log2 : Int) + 1 + e₂ := htotal
      let t : Int := min (e₁ - e₂)
        (max ((m₁.log2 : Int) + 1 + e₁ - (m₂.log2 + 1 + e₂) - 53) (-1074))
      let q : Nat := m₁ <<< (e₁ - e₂ - t).toNat / m₂
      show AtMost e (roundWithAccuracy .binary64 (s₁ / s₂) q t _)
      refine (atMost_round _ _ _ _).mono ?_
      have hq := log2_div_le m₁ hm₂ (e₁ - e₂ - t).toNat
      rw [show m₁ <<< (e₁ - e₂ - t).toNat / m₂ = q from rfl] at hq
      omega

/-- What does not fit is infinite. -/
theorem isInf_pack {s : Sign} {m : Nat} {k : Int} (hm : 0 < m) (hk : 971 < k) :
    (Float.Model.pack (.finite s m k hm)).isInf = true := by
  have hbias : k + (Format.binary64.exponentBias : Int) + (52 : Nat) = k + 1075 := by
    show k + (1023 : Nat) + (52 : Nat) = _
    omega
  have hpack : UnpackedFloat.pack .binary64 (.finite s m k hm) =
      packComponents .binary64 s (-1#11) 0#52 := by
    rw [UnpackedFloat.pack]
    simp only [hbias]
    rw [if_pos (by show 2048 ≤ (k + 1075).toNat + 1; omega)]
    rfl
  show (UnpackedFloat.unpack .binary64 (UnpackedFloat.pack .binary64 (.finite s m k hm))).isInf = true
  rw [hpack, UnpackedFloat.unpack]
  simp only [unpackExponent_packComponents, unpackMantissa_packComponents]
  rfl

/-- A rounded number is finite, unless it is infinite. -/
theorem isFinite_pack_round {s : Sign} {m : Nat} {e : Int} {a : Accuracy}
    (hinf : (Float.Model.pack (roundWithAccuracy .binary64 s m e a)).isInf = false) :
    (Float.Model.pack (roundWithAccuracy .binary64 s m e a)).isFinite = true := by
  have hround := atMost_round s m e a
  cases hr : roundWithAccuracy .binary64 s m e a with
  | notANumber =>
    rw [hr] at hround
    exact hround.elim
  | infinity s =>
    rw [hr] at hround
    exact hround.elim
  | zero s => exact (atMost_pack (by decide) (Int.le_refl 971) (x := .zero s) trivial).isFinite
  | finite s' r k h =>
    rw [hr] at hinf
    have hk : k ≤ 971 := by
      by_contra hk
      exact Bool.false_ne_true (hinf.symm.trans (isInf_pack h (by omega)))
    exact (atMost_pack (by decide) (Int.le_refl 971) (x := .finite s' r k h) hk).isFinite

/-- A product of finite doubles is finite, unless it is infinite. -/
theorem isFinite_mul {x y : Float.Model} (hx : x.isFinite = true) (hy : y.isFinite = true)
    (hinf : (x * y).isInf = false) : (x * y).isFinite = true := by
  have hx : x.unpack.isFinite = true := hx
  have hy : y.unpack.isFinite = true := hy
  have hmul : x * y = Float.Model.pack (UnpackedFloat.mul .binary64 x.unpack y.unpack) := rfl
  have hzero (s : Sign) : (Float.Model.pack (.zero s)).isFinite = true :=
    (atMost_pack (by decide) (Int.le_refl 971) (x := .zero s) trivial).isFinite
  rw [hmul] at hinf ⊢
  cases hxu : x.unpack <;> rw [hxu] at hx hinf <;> try cases hx
  all_goals
    cases hyu : y.unpack <;> rw [hyu] at hy hinf <;> try cases hy
  · exact hzero _
  · exact hzero _
  · exact hzero _
  · exact isFinite_pack_round hinf

/-! ## Conversions -/

/-- A whole number below `2 ^ 64` as a double. -/
theorem atMost_toFloat (n : UInt64) : AtMost 12 n.toFloat.toModel.unpack := by
  show AtMost 12 (Float.Model.pack (normalize .binary64 (n.toNat : Int) 0 _)).unpack
  refine atMost_pack (by decide) (by decide) ?_
  have hround : AtMost 12 (UnpackedFloat.round .binary64 .positive n.toNat 0) := by
    let k : Nat := (0 - aim n.toNat.log2 0).toNat
    show AtMost 12 (roundWithAccuracy .binary64 .positive (n.toNat <<< k) (0 - k) .exact)
    refine (atMost_round _ _ _ _).mono ?_
    have hshift := log2_div_le n.toNat Nat.one_pos k
    rw [Nat.div_one] at hshift
    have hlog : n.toNat.log2 < 64 := by
      by_cases hzero : n.toNat = 0
      · rw [hzero]
        decide
      · exact (Nat.log2_lt hzero).mpr n.toNat_lt
    omega
  unfold UnpackedFloat.normalize
  split
  · rename_i hneg
    have := Int.compare_eq_lt.mp hneg
    omega
  · trivial
  · exact hround

theorem isFinite_neg {x : Float.Model} (h : x.isFinite = true) : (-x).isFinite = true := by
  have hmost := (unpack_cases x h).1
  show (Float.Model.pack x.unpack.neg).isFinite = true
  cases hx : x.unpack with
  | finite s m k hm =>
    rw [hx] at hmost
    exact (atMost_pack (by decide) (Int.le_refl 971) (x := .finite (-s) m k hm) hmost).isFinite
  | zero s => exact (atMost_pack (by decide) (Int.le_refl 971) (x := .zero (-s)) trivial).isFinite
  | _ =>
    rw [hx] at hmost
    exact hmost.elim

/-- The powers of ten that are written down. -/
theorem small_powers : ∀ n ≤ 22, (powerOfTen n).isFinite = true ∧
    (n ≠ 0 → 2 ≤ total (powerOfTen n).toModel.unpack) := by
  decide +kernel

theorem greatest_power : (powerOfTen 308).isFinite = true ∧
    2 ≤ total (powerOfTen 308).toModel.unpack := by
  decide +kernel

/-- Powers of ten up to `10 ^ 308` are finite, and those from ten on are no smaller than two. -/
theorem powerOfTen_bounds {n : Nat} (hn : n ≤ 308) : (powerOfTen n).isFinite = true ∧
    (n ≠ 0 → 2 ≤ total (powerOfTen n).toModel.unpack) := by
  by_cases hsmall : n ≤ 22
  · exact small_powers n hsmall
  by_cases hgreatest : n = 308
  · rw [hgreatest]
    exact ⟨greatest_power.1, fun _ => greatest_power.2⟩
  let m : Nat := 1 <<< 53 * 10 ^ n
  have hm : m = 2 ^ 53 * 10 ^ n := by
    show 1 <<< 53 * 10 ^ n = _
    rw [Nat.shiftLeft_eq, Nat.one_mul]
  have hpower : (powerOfTen n).toModel =
      Float.Model.pack (roundWithAccuracy .binary64 (.positive * .positive) m (-53 + 0) .exact) := by
    have hscientific : UnpackedFloat.ofScientific .binary64 1 (n : Int) =
        roundWithAccuracy .binary64 (.positive * .positive) m (-53 + 0) .exact := by
      unfold UnpackedFloat.ofScientific
      rw [dif_neg (by decide), if_neg (by show ¬(2048 : Int) < n; omega),
        if_neg (by show ¬(n : Int) < -((2048 : Int) + (Nat.log2 1 : Nat)); omega), if_pos (by omega)]
      rfl
    rw [← hscientific]
    unfold powerOfTen Float.ofScientific
    rw [dif_neg (by omega)]
    rfl
  have hlow : 2 ^ 54 ≤ m := by
    have : 10 ^ 1 ≤ 10 ^ n := Nat.pow_le_pow_right (by decide) (by omega)
    omega
  have hpos : m ≠ 0 := by omega
  have hlogs : 54 ≤ m.log2 ∧ m.log2 < 1076 := by
    refine ⟨(Nat.le_log2 hpos).mpr hlow, (Nat.log2_lt hpos).mpr ?_⟩
    rw [hm]
    calc 2 ^ 53 * 10 ^ n ≤ 2 ^ 53 * 10 ^ 307 :=
          Nat.mul_le_mul_left _ (Nat.pow_le_pow_right (by decide) (by omega))
      _ < 2 ^ 1076 := by decide +kernel
  have hmost := atMost_round (.positive * .positive) m (-53 + 0) .exact
  obtain ⟨r, k, hr, hround, hr₁, hr₂, hk⟩ :=
    @full_round (.positive * .positive) m (-53 + 0) .exact (by omega) (by omega)
  rw [hround] at hmost hpower
  have hk' : k ≤ max (max (-53 + 0 : Int) ((m.log2 : Int) + 1 + (-53 + 0) - 52)) (-1074) := hmost
  have hfits : AtMost 971 (.finite (.positive * .positive) r k hr) := by
    show k ≤ 971
    omega
  obtain ⟨s', m', h', hunpack, hm'⟩ := full_pack hr hr₁ hr₂ (by omega) (by omega : k ≤ 971)
  refine ⟨?_, fun _ => ?_⟩
  · show (powerOfTen n).toModel.isFinite = true
    rw [hpower]
    exact (atMost_pack (by decide) (Int.le_refl 971) hfits).isFinite
  · rw [hpower, hunpack]
    have := (Nat.le_log2 (by omega)).mpr hm'
    show 2 ≤ (m'.log2 : Int) + 1 + k
    omega

/-! ## Reading -/

/-- Dividing down by powers of ten makes a double no larger. -/
theorem atMost_divideDown : ∀ (n : Nat) {f : Float}, n ≠ 0 → AtMost 12 f.toModel.unpack →
    AtMost 12 (divideDown f n).toModel.unpack := by
  have hstep {f : Float} {n : Nat} (hn : n ≤ 308) (hpos : n ≠ 0) (hf : AtMost 12 f.toModel.unpack) :
      AtMost 12 (f / powerOfTen n).toModel.unpack :=
    have hpower := powerOfTen_bounds hn
    atMost_div hf (by decide) (by decide) hpower.1 (hpower.2 hpos)
  intro n
  induction n using Nat.strongRecOn with
  | ind n ih =>
    intro f hn hf
    rw [divideDown]
    split
    · exact hf
    split
    · rename_i hle
      exact hstep hle hn hf
    · rename_i hle
      exact ih (n - 308) (by omega) (by omega) (hstep (Nat.le_refl 308) (by decide) hf)

theorem isFinite_of_scaledBy {m : UInt64} {e : Int} {f : Float} (h : scaledBy m e = some f) :
    f.isFinite = true := by
  have hm := atMost_toFloat m
  unfold scaledBy at h
  dsimp only at h
  split at h
  · rename_i hneg
    rw [← Option.some.inj h]
    exact (atMost_divideDown _ (by omega) hm).isFinite
  split at h
  · split at h
    · cases h
    · rename_i hle hinf
      rw [← Option.some.inj h]
      exact isFinite_mul hm.isFinite (powerOfTen_bounds (by omega)).1 (Bool.eq_false_iff.mpr hinf)
  · split at h
    · rw [← Option.some.inj h]
      exact hm.isFinite
    · cases h

end Decimal

namespace Json

open Decimal

/-- **What is read is finite.** -/
theorem Number.isFinite_of_float? {n : Number} {f : Float} (h : n.float? = some f) :
    f.isFinite = true := by
  obtain ⟨g, hg, rfl⟩ := Option.map_eq_some_iff.mp h
  have hfinite : g.isFinite = true := by
    unfold Number.magnitude? at hg
    dsimp only at hg
    split at hg
    · rw [← Option.some.inj hg]
      exact (atMost_toFloat _).isFinite
    split at hg
    · exact isFinite_of_scaledBy hg
    · split at hg
      · split at hg
        · cases hg
        · rw [← Option.some.inj hg]
          decide +kernel
      · exact isFinite_of_scaledBy hg
  split
  · exact isFinite_neg hfinite
  · exact hfinite

end Json

end PointerShare
