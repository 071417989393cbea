/-
The whole part of a double.

Cutting a fraction off goes through natural numbers, and back to the nearest double. Nothing is lost on the
way back: the whole part has no more bits than the mantissa it comes from, and a natural number of so many
bits is a double itself. So what is left is exactly the whole part, with the sign that there was.
-/
import Mathlib
import PageScript.Number.Binary

namespace PageScript.Number

open Float.Model UnpackedFloat

-- ======== bits

theorem toNat_unpackExponent (b : BitVec 64) :
    (@unpackExponent .binary64 b).toNat = b.toNat / 2 ^ 52 % 2 ^ 11 := by
  simp [unpackExponent, Nat.shiftRight_eq_div_pow]

/-- Bits that stand for a finite number are kept as they are. -/
theorem toBits_ofBits {b : UInt64} (h : b.toNat / 2 ^ 52 % 2 ^ 11 ≠ 2047) :
    (Float.ofBits b).toBits = b := by
  have hnumber : ¬@isNaNBits .binary64 b.toBitVec = true := by
    intro hnan
    obtain ⟨hones, -⟩ := of_decide_eq_true hnan
    have hexponent := toNat_unpackExponent b.toBitVec
    rw [hones] at hexponent
    exact h hexponent.symm
  have hpack := @pack_unpack .binary64 b.toBitVec (by decide)
  rw [if_neg hnumber] at hpack
  exact congrArg UInt64.ofBitVec hpack

-- ======== natural numbers

/-- What bits with an exponent for finite numbers stand for. -/
theorem decode_ofBits (negative : Bool) {e f : Nat} (he : e < 2047) (hf : f < 2 ^ 52) :
    decode (Float.ofBits (UInt64.ofNat ((if negative then 2 ^ 63 else 0) + (e * 2 ^ 52 + f)))) =
      if e = 0 then .finite negative f (-1074) else .finite negative (2 ^ 52 + f) (e - 1075) := by
  obtain ⟨high, hhigh, hnegative⟩ : ∃ high, (if negative then 2 ^ 63 else 0) = high ∧
      (high = 0 ∧ negative = false ∨ high = 2 ^ 63 ∧ negative = true) := by
    cases negative
    · exact ⟨0, rfl, .inl ⟨rfl, rfl⟩⟩
    · exact ⟨2 ^ 63, rfl, .inr ⟨rfl, rfl⟩⟩
  have hsign : decide (2 ^ 63 ≤ high + (e * 2 ^ 52 + f)) = negative := by
    rcases hnegative with ⟨rfl, rfl⟩ | ⟨rfl, rfl⟩
    · exact decide_eq_false (by omega)
    · exact decide_eq_true (by omega)
  have hexponent : (high + (e * 2 ^ 52 + f)) / 2 ^ 52 % 2 ^ 11 = e := by omega
  have hfraction : (high + (e * 2 ^ 52 + f)) % 2 ^ 52 = f := by omega
  have hbits : (UInt64.ofNat (high + (e * 2 ^ 52 + f))).toNat = high + (e * 2 ^ 52 + f) := by
    rw [UInt64.toNat_ofNat']
    exact Nat.mod_eq_of_lt (by omega)
  rw [hhigh, decode, toBits_ofBits (by rw [hbits, hexponent]; omega), hbits]
  simp only [hexponent, hfraction, hsign]
  rw [if_neg (by omega)]

/-- The bits of a natural number that a mantissa has room for: the number is shifted until its first bit
is that of the mantissa. -/
theorem nearestBits_whole {n : Nat} (hpos : n ≠ 0) (hn : n < 2 ^ 53) :
    ∃ m, 2 ^ 52 ≤ m ∧ m < 2 ^ 53 ∧ m = n * 2 ^ (52 - n.log2) ∧
      nearestBits n 1 = (1023 + n.log2) * 2 ^ 52 + (m - 2 ^ 52) := by
  have hlog : n.log2 ≤ 52 := Nat.lt_succ_iff.1 ((Nat.log2_lt hpos).2 hn)
  have hlow : 2 ^ 52 ≤ n * 2 ^ (52 - n.log2) :=
    calc 2 ^ 52 = 2 ^ n.log2 * 2 ^ (52 - n.log2) := by rw [← Nat.pow_add]; congr 1; omega
      _ ≤ _ := Nat.mul_le_mul_right _ (Nat.log2_self_le hpos)
  have hhigh : n * 2 ^ (52 - n.log2) < 2 ^ 53 :=
    calc n * 2 ^ (52 - n.log2) < 2 ^ (n.log2 + 1) * 2 ^ (52 - n.log2) :=
          Nat.mul_lt_mul_of_pos_right Nat.lt_log2_self (Nat.two_pow_pos _)
      _ = 2 ^ 53 := by rw [← Nat.pow_add]; congr 1; omega
  have hunits : inUnits n 1 ((n.log2 : Int) - 52) = (n * 2 ^ (52 - n.log2), 1) := by
    rw [inUnits]
    split
    · have h52 : n.log2 = 52 := by omega
      simp [h52]
    · rw [show (-((n.log2 : Int) - 52)).toNat = 52 - n.log2 by omega]
  have hguess : (n.log2 : Int) - (Nat.log2 1 : Nat) - 52 = (n.log2 : Int) - 52 := by
    rw [show Nat.log2 1 = 0 by decide]
    omega
  have hnormal : max ((n.log2 : Int) - 52) (-1074) = (n.log2 : Int) - 52 := by omega
  have hexact : ∀ m, divNearest m 1 = m := fun m => by simp [divNearest, Nat.mod_one]
  refine ⟨_, hlow, hhigh, rfl, ?_⟩
  generalize n * 2 ^ (52 - n.log2) = m at hlow hhigh hunits ⊢
  rw [nearestBits, if_neg hpos]
  simp only [hguess, hunits, Nat.div_one, if_neg (Nat.not_lt.2 hlow), hnormal, hexact,
    if_neg (Nat.ne_of_lt hhigh)]
  rw [if_neg (by omega), show ((n.log2 : Int) - 52 + 1075).toNat = 1023 + n.log2 by omega]

/-- Such a number is a double. -/
theorem decode_ofFraction (negative : Bool) {n : Nat} (hn : n < 2 ^ 53) :
    ∃ m q, decode (ofFraction negative n 1) = .finite negative m q ∧
      m * 2 ^ q.toNat = n * 2 ^ (-q).toNat := by
  rw [ofFraction]
  rcases Nat.eq_zero_or_pos n with rfl | hpos
  · exact ⟨0, -1074, decode_ofBits negative (e := 0) (f := 0) (by decide) (by decide),
      by rw [Nat.zero_mul, Nat.zero_mul]⟩
  · have hne := Nat.ne_of_gt hpos
    have hlog : n.log2 ≤ 52 := Nat.lt_succ_iff.1 ((Nat.log2_lt hne).2 hn)
    obtain ⟨m, hlow, hhigh, hm, hbits⟩ := nearestBits_whole hne hn
    rw [hbits, decode_ofBits negative (by omega) (by omega), if_neg (by omega)]
    refine ⟨_, _, rfl, ?_⟩
    rw [show (((1023 + n.log2 : Nat) : Int) - 1075).toNat = 0 by omega,
      show (-(((1023 + n.log2 : Nat) : Int) - 1075)).toNat = 52 - n.log2 by omega, ← hm]
    omega

-- ======== whole parts

/-- The second value is the first without its fraction: the sign is the same, and of a finite number just
the whole part is left. -/
inductive CutTo : Parts → Parts → Prop
  | finite {negative : Bool} {m m' : Nat} {q q' : Int} :
      m' * 2 ^ q'.toNat = m * 2 ^ q.toNat / 2 ^ (-q).toNat * 2 ^ (-q').toNat →
      CutTo (.finite negative m q) (.finite negative m' q')
  | infinite (negative : Bool) : CutTo (.infinite negative) (.infinite negative)
  | nan : CutTo .nan .nan

theorem mantissa_lt {x : Float} {negative : Bool} {m : Nat} {q : Int}
    (h : decode x = .finite negative m q) : m < 2 ^ 53 := by
  simp only [decode] at h
  split at h
  · split at h <;> cases h
  · split at h <;> cases h <;> omega

theorem truncate_cutTo (x : Float) : CutTo (decode x) (decode (truncate x)) := by
  unfold truncate
  split
  · next negative m q hx =>
    split
    · next hq =>
      rw [hx]
      refine .finite ?_
      rw [show (-q).toNat = 0 by omega, Nat.pow_zero, Nat.div_one, Nat.mul_one]
    · next hq =>
      have hle : m / 2 ^ (-q).toNat ≤ m := Nat.div_le_self ..
      obtain ⟨m', q', hy, hvalue⟩ :=
        decode_ofFraction negative (Nat.lt_of_le_of_lt hle (mantissa_lt hx))
      rw [hx, hy]
      refine .finite ?_
      rw [hvalue, show q.toNat = 0 by omega, Nat.pow_zero, Nat.mul_one]
  · next hother =>
    cases hx : decode x with
    | nan => exact .nan
    | infinite negative => exact .infinite negative
    | finite negative m q => exact absurd hx (hother negative m q)

end PageScript.Number
