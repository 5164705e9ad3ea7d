/-
# Numerals

The numbers that are written are well formed: a whole number has no zero in
front, and a double is written with the shortest digits that read back, which
are not zero for a double that is not. A whole number within 64 bits is read as
the number it was.

Key theorems: `natOf_digits`, `Number.wellFormed_ofInt`, `Number.int?_ofInt`,
`Decimal.Shortest.digits_ne_zero`, `Number.wellFormed_ofFloat`.
-/
import PointerShare.Proofs.ReadingBack
import Mathlib.Algebra.Ring.Int.Defs

namespace PointerShare

namespace Json

/-! ## Digits -/

theorem digits_eq (n : Nat) : (toString n).toList = Nat.toDigits 10 n := by
  rw [Nat.toString_eq_ofList_toDigits, String.toList_ofList]

theorem isDigit_eq (c : Char) : isDigit c = c.isDigit := by
  simp only [isDigit, Char.isDigit, Char.le_def]

/-- The digits of a number. -/
theorem areDigits_digits (n : Nat) : AreDigits (toString n).toList := by
  rw [digits_eq]
  refine ⟨Nat.toDigits_ne_nil, fun c hc => ?_⟩
  rw [isDigit_eq]
  exact Nat.isDigit_of_mem_toDigits (by decide) (by decide) hc

theorem digitChar_ne_zero : ∀ d < 10, d ≠ 0 → Nat.digitChar d ≠ '0' := by decide

/-- Only zero begins with a zero. -/
theorem head_digits {n : Nat} (hn : n ≠ 0) : (toString n).toList.head? ≠ some '0' := by
  rw [digits_eq]
  induction n using Nat.strongRecOn with
  | ind n ih =>
    by_cases hlt : n < 10
    · rw [Nat.toDigits_of_lt_base hlt]
      simpa using digitChar_ne_zero n hlt hn
    · rw [Nat.toDigits_of_base_le (by decide) (by omega)]
      have hhead := ih (n / 10) (by omega) (by omega)
      obtain ⟨c, cs, hcons⟩ := List.exists_cons_of_ne_nil (@Nat.toDigits_ne_nil (n / 10) 10)
      rw [hcons] at hhead ⊢
      exact hhead

/-- The value of a number's digits. -/
theorem natOf_digits (n : Nat) : natOf (toString n).toList = n := by
  have hfold (cs : List Char) (m : Nat) :
      cs.foldl (fun k c => k * 10 + digitValue c) m = Nat.ofDigitChars 10 cs m := by
    rw [Nat.ofDigitChars_eq_foldl]
    congr 1
    funext k c
    rw [Nat.mul_comm]
    rfl
  rw [digits_eq, natOf, hfold, Nat.ofDigitChars_ten_toDigits]

namespace Number

theorem wellFormed_ofInt (i : Int) : (ofInt i).WellFormed where
  whole := areDigits_digits _
  head := by
    intro h
    by_cases hi : i.natAbs = 0
    · simp only [ofInt, hi]
      decide
    · exact absurd h (head_digits hi)
  fraction := nofun
  exponent := nofun

/-- A whole number within 64 bits is read as what it was. -/
theorem int?_ofInt {i : Int} (hlow : -(2 ^ 63) ≤ i) (hhigh : i < 2 ^ 64) :
    (ofInt i).int? = some i := by
  have hpow : Nat.pow 2 63 = 2 ^ 63 ∧ Nat.pow 2 64 = 2 ^ 64 := ⟨rfl, rfl⟩
  simp only [int?, ofInt, natOf_digits, Option.isSome_none, Bool.or_self, Bool.false_eq_true, if_false,
    hpow.1, hpow.2]
  by_cases hneg : i < 0
  · rw [if_pos (by simpa using hneg), if_neg (by omega)]
    congr 1
    omega
  · rw [if_neg (by simpa using hneg), if_pos (by omega)]
    congr 1
    omega

end Number

end Json

/-! ## Doubles -/

namespace Decimal

namespace Ratio

theorem num_scale_pos {r : Ratio} (h : 0 < r.num) {b : Nat} (hb : 0 < b) (e : Int) :
    0 < (r.scale b e).num := by
  unfold scale
  split
  · exact Nat.mul_pos h (Nat.pow_pos hb)
  · exact h

theorem den_scale_pos {r : Ratio} (h : 0 < r.den) {b : Nat} (hb : 0 < b) (e : Int) :
    0 < (r.scale b e).den := by
  unfold scale
  split
  · exact h
  · exact Nat.mul_pos h (Nat.pow_pos hb)

end Ratio

theorem Binary.num_lower_pos {b : Binary} (hb : b.significand ≠ 0) : 0 < b.lower.num := by
  unfold lower
  split
  · exact Ratio.num_scale_pos (by show 0 < 4 * b.significand - 1; omega) (by decide) _
  · exact Ratio.num_scale_pos (by show 0 < 2 * b.significand - 1; omega) (by decide) _

/-- Zero does not read back as a positive double. -/
theorem Binary.digits_ne_zero {b : Binary} (hb : b.significand ≠ 0) {d : Scaled}
    (h : b.reads d.value = true) : d.digits ≠ 0 := by
  intro hd
  have hnum : d.value.num = 0 := by
    unfold Scaled.value Ratio.scale
    split <;> simp [hd]
  have hden : 0 < d.value.den := Ratio.den_scale_pos Nat.one_pos (by decide) _
  have hpos : 0 < b.lower.num * d.value.den := Nat.mul_pos (b.num_lower_pos hb) hden
  unfold reads at h
  split at h
  · have hle := (Bool.and_eq_true_iff.mp h).1
    simp only [Ratio.le, hnum, Nat.zero_mul, decide_eq_true_eq] at hle
    omega
  · have hlt := (Bool.and_eq_true_iff.mp h).1
    simp only [Ratio.lt, hnum, Nat.zero_mul, decide_eq_true_eq] at hlt
    omega

namespace Shortest

theorem withDigits_ne_zero {tie : Tie} {b : Binary} (hb : b.significand ≠ 0) {n : Nat} {d : Scaled}
    (h : withDigits tie b n = some d) : d.digits ≠ 0 := by
  unfold withDigits at h
  dsimp only at h
  split at h
  · rename_i hdown hup
    split at h
    · exact Option.some.inj h ▸ Binary.digits_ne_zero hb hdown
    · split at h
      · exact Option.some.inj h ▸ Binary.digits_ne_zero hb hup
      · exact Option.some.inj h ▸ Binary.digits_ne_zero hb hdown
    · exact Option.some.inj h ▸ Binary.digits_ne_zero hb hup
  · rename_i hdown _
    exact Option.some.inj h ▸ Binary.digits_ne_zero hb hdown
  · rename_i _ hup
    exact Option.some.inj h ▸ Binary.digits_ne_zero hb hup
  · cases h

/-- The digits are found, or the search has given up. -/
theorem search_ne_zero (tie : Tie) {b : Binary} (hb : b.significand ≠ 0) : ∀ tries n : Nat,
    (search tie b tries n).digits ≠ 0 ∨ search tie b tries n = ⟨0, 0⟩
  | 0, n => by
    unfold search
    cases h : withDigits tie b n with
    | none => exact .inr rfl
    | some d => exact .inl (withDigits_ne_zero hb h)
  | tries + 1, n => by
    unfold search
    cases h : withDigits tie b n with
    | none => exact search_ne_zero tie hb tries (n + 1)
    | some d => exact .inl (withDigits_ne_zero hb h)

theorem trim_ne_zero : ∀ (n : Nat) {d : Scaled}, d.digits ≠ 0 → (trim n d).digits ≠ 0
  | 0, _, hd => hd
  | n + 1, d, hd => by
    unfold trim
    split
    · rename_i h
      exact trim_ne_zero n (by show d.digits / 10 ≠ 0; omega)
    · exact hd

theorem digits_ne_zero (tie : Tie) {b : Binary} (hb : b.significand ≠ 0) :
    (digits tie b).digits ≠ 0 ∨ digits tie b = ⟨0, 0⟩ := by
  unfold digits
  rcases search_ne_zero tie hb 16 1 with h | h
  · exact .inl (trim_ne_zero 20 h)
  · rw [h]
    exact .inr rfl

end Shortest

end Decimal

namespace Json

open Decimal

/-- What can be written: digits, without a zero before another digit of the whole part. -/
structure Sound (p : Decimal.Parts) : Prop where
  whole : AreDigits p.whole
  head : p.whole.head? = some '0' → p.whole.length = 1
  fraction : ∀ ds ∈ p.fraction, AreDigits ds

theorem areDigits_zeros {n : Nat} (hn : n ≠ 0) : AreDigits (List.replicate n '0') :=
  ⟨by simp [hn], fun c hc => (List.mem_replicate.mp hc).2 ▸ rfl⟩

theorem AreDigits.append {ds es : List Char} (hd : AreDigits ds) (he : ∀ c ∈ es, isDigit c = true) :
    AreDigits (ds ++ es) :=
  ⟨by simp [hd.1], fun c hc => (List.mem_append.mp hc).elim (hd.2 c) (he c)⟩

theorem AreDigits.take {ds : List Char} (hd : AreDigits ds) {k : Nat} (hk : 0 < k) :
    AreDigits (ds.take k) := by
  refine ⟨?_, fun c hc => hd.2 c (List.mem_of_mem_take hc)⟩
  have := List.length_pos_iff.mpr hd.1
  exact List.ne_nil_of_length_pos (by rw [List.length_take]; omega)

theorem AreDigits.drop {ds : List Char} (hd : AreDigits ds) {k : Nat} (hk : k < ds.length) :
    AreDigits (ds.drop k) :=
  ⟨List.ne_nil_of_length_pos (by rw [List.length_drop]; omega),
    fun c hc => hd.2 c (List.mem_of_mem_drop hc)⟩

/-- A positional numeral: its digits go on with zeros, or the point stands among or before them. -/
theorem sound_positional (isNegative : Bool) {d : Scaled} (hd : d.digits ≠ 0 ∨ d = ⟨0, 0⟩) :
    Sound (positional isNegative d) := by
  have hdigits := areDigits_digits d.digits
  have hzeros (n : Nat) : ∀ c ∈ List.replicate n '0', isDigit c = true :=
    fun c hc => (List.mem_replicate.mp hc).2 ▸ rfl
  rcases hd with hd | rfl
  · have hhead := head_digits hd
    obtain ⟨c, cs, hcons⟩ := List.exists_cons_of_ne_nil hdigits.1
    unfold positional
    dsimp only
    split
    · refine ⟨hdigits.append (hzeros _), fun h => absurd ?_ hhead, ?_⟩
      · rw [hcons] at h ⊢
        exact h
      · rintro ds ⟨⟩
        exact areDigits_zeros (by decide : 1 ≠ 0)
    · rename_i hexp
      split
      · rename_i hpoint
        refine ⟨hdigits.take (by omega), fun h => absurd ?_ hhead, ?_⟩
        · rw [List.head?_take, if_neg (by omega)] at h
          exact h
        · rintro ds ⟨⟩
          exact hdigits.drop (by omega)
      · refine ⟨areDigits_zeros (by decide : 1 ≠ 0), fun _ => rfl, ?_⟩
        rintro ds ⟨⟩
        exact ⟨by simp, fun c hc => (List.mem_append.mp hc).elim (hzeros _ c) (hdigits.2 c)⟩
  · refine ⟨areDigits_zeros (by decide : 1 ≠ 0), fun _ => rfl, ?_⟩
    rintro ds ⟨⟩
    exact areDigits_zeros (by decide : 1 ≠ 0)

theorem sound_exponential (isNegative : Bool) (d : Scaled) : Sound (exponential isNegative d) := by
  have hdigits := areDigits_digits d.digits
  have hlength := List.length_pos_iff.mpr hdigits.1
  refine ⟨hdigits.take Nat.one_pos, fun _ => ?_, fun ds hds => ?_⟩
  · show ((toString d.digits).toList.take 1).length = 1
    rw [List.length_take]
    omega
  · simp only [exponential] at hds
    split at hds
    · cases hds
    · cases hds
      exact hdigits.drop (by omega)

theorem sound_parts (style : Style) (bits : UInt64) : Sound (style.parts bits) := by
  unfold Style.parts
  dsimp only
  split
  · refine ⟨areDigits_zeros (by decide : 1 ≠ 0), fun _ => rfl, ?_⟩
    rintro ds ⟨⟩
    exact areDigits_zeros (by decide : 1 ≠ 0)
  · rename_i hb
    split
    · exact sound_positional _ (Shortest.digits_ne_zero _ hb)
    · exact sound_exponential _ _

/-- The written form of a double is well formed. -/
theorem Number.wellFormed_ofFloat (f : Float) : (Number.ofFloat f).WellFormed := by
  obtain ⟨hwhole, hhead, hfraction⟩ := sound_parts floatStyle f.toBits
  refine ⟨hwhole, hhead, hfraction, fun e he => ?_⟩
  obtain ⟨k, -, rfl⟩ := Option.map_eq_some_iff.mp he
  exact areDigits_digits _

end Json

end PointerShare
