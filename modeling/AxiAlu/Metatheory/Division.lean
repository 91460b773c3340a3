import AxiAlu.Rtl.AluCore
import Mathlib.Tactic.Ring

/-!
The restoring divider of `alu_core`. After the passes for the indices from `i`
up, the quotient and the remainder are those of the numerator's bits from `i` up;
the remainder stays below the denominator, so the bit that the shift drops is
always zero.
-/
namespace AxiAlu.AluCore
variable {dataWidth : Nat}

/-- Bringing down one more bit of the numerator in long division. -/
theorem long_division_step (high bit d : Nat) (hbit : bit ≤ 1) (hd : 0 < d) :
    (2 * high + bit) / d =
        2 * (high / d) + (if d ≤ 2 * (high % d) + bit then 1 else 0) ∧
      (2 * high + bit) % d =
        2 * (high % d) + bit - (if d ≤ 2 * (high % d) + bit then d else 0) := by
  have split_high : d * (high / d) + high % d = high := Nat.div_add_mod high d
  have rem_lt : high % d < d := Nat.mod_lt high hd
  apply (Nat.div_mod_unique hd).mpr
  split
  · refine ⟨?_, by omega⟩
    rw [Nat.mul_add, Nat.mul_left_comm d 2]
    omega
  · refine ⟨?_, by omega⟩
    rw [Nat.add_zero, Nat.mul_left_comm d 2]
    omega

/-- The loop invariant before the pass for index `i - 1`. -/
structure DividedTo (numerator denominator : BitVec dataWidth) (i : Nat)
    (v : Division dataWidth) : Prop where
  quotient : v.quotient.toNat = numerator.toNat / 2 ^ i / denominator.toNat * 2 ^ i
  remainder : v.remainder.toNat = numerator.toNat / 2 ^ i % denominator.toNat

theorem dividedTo_start (numerator denominator : BitVec dataWidth) :
    DividedTo numerator denominator dataWidth { quotient := 0, remainder := 0 } := by
  have high : numerator.toNat / 2 ^ dataWidth = 0 := Nat.div_eq_of_lt numerator.isLt
  constructor <;> simp [high]

theorem DividedTo.remainder_lt {numerator denominator : BitVec dataWidth} {i : Nat}
    {v : Division dataWidth} (h : DividedTo numerator denominator i v)
    (nonzero : denominator ≠ 0) : v.remainder.toNat < denominator.toNat := by
  rw [h.remainder]
  apply Nat.mod_lt
  exact Nat.pos_of_ne_zero fun hz => nonzero (BitVec.eq_of_toNat_eq (by simpa using hz))

theorem bit_split (numerator : BitVec dataWidth) (i : Nat) :
    numerator.toNat / 2 ^ i =
      2 * (numerator.toNat / 2 ^ (i + 1)) + (numerator.getLsbD i).toNat := by
  have shifted : numerator.toNat / 2 ^ (i + 1) = numerator.toNat / 2 ^ i / 2 := by
    rw [Nat.pow_succ, Nat.div_div_eq_div_mul]
  have bit : (numerator.getLsbD i).toNat = numerator.toNat / 2 ^ i % 2 := by
    rw [BitVec.getLsbD, Nat.testBit_eq_decide_div_mod_eq]
    rcases Nat.mod_two_eq_zero_or_one (numerator.toNat / 2 ^ i) with h | h <;> simp [h]
  rw [shifted, bit]
  omega

theorem toNat_shiftIn (remainder : BitVec (dataWidth + 1)) (bit : Bool)
    (fits : remainder.toNat < 2 ^ dataWidth) :
    (shiftIn remainder bit).toNat = 2 * remainder.toNat + bit.toNat := by
  rw [shiftIn, BitVec.toNat_concat, BitVec.toNat_setWidth, Nat.mod_eq_of_lt fits, Nat.mul_comm]

theorem toNat_or_twoPow (quotient : BitVec dataWidth) (i m : Nat) (hi : i < dataWidth)
    (low : quotient.toNat = m * 2 ^ (i + 1)) :
    (quotient ||| BitVec.twoPow dataWidth i).toNat = (2 * m + 1) * 2 ^ i := by
  have bound : 2 ^ i < 2 ^ (i + 1) := Nat.pow_lt_pow_right (by decide) (Nat.lt_succ_self i)
  rw [BitVec.toNat_or, BitVec.toNat_twoPow_of_lt hi, low, Nat.mul_comm m,
    ← Nat.two_pow_add_eq_or_of_lt bound, Nat.pow_succ]
  ring

theorem toNat_widened (denominator : BitVec dataWidth) :
    (denominator.setWidth (dataWidth + 1)).toNat = denominator.toNat := by
  have fits := denominator.isLt
  rw [BitVec.toNat_setWidth, Nat.mod_eq_of_lt]
  rw [Nat.pow_succ]
  omega

theorem widened_le_iff (denominator : BitVec dataWidth) (r : BitVec (dataWidth + 1)) :
    denominator.setWidth (dataWidth + 1) ≤ r ↔ denominator.toNat ≤ r.toNat := by
  rw [BitVec.le_def, toNat_widened]

section Pass
variable {numerator denominator : BitVec dataWidth} {i : Nat} {v : Division dataWidth}

theorem divideStep_fits
    (fits : denominator.toNat ≤ (shiftIn v.remainder (numerator.getLsbD i)).toNat) :
    divideStep numerator denominator i v =
      { quotient := v.quotient ||| BitVec.twoPow dataWidth i
        remainder := shiftIn v.remainder (numerator.getLsbD i) -
          denominator.setWidth (dataWidth + 1) } :=
  if_pos ((widened_le_iff _ _).mpr fits)

theorem divideStep_short
    (short : ¬ denominator.toNat ≤ (shiftIn v.remainder (numerator.getLsbD i)).toNat) :
    divideStep numerator denominator i v =
      { v with remainder := shiftIn v.remainder (numerator.getLsbD i) } :=
  if_neg fun fits => short ((widened_le_iff _ _).mp fits)

/-- A pass takes off the denominator where it fits, and never borrows. -/
theorem divideStep_remainder :
    (divideStep numerator denominator i v).remainder.toNat +
        (if denominator.toNat ≤ (shiftIn v.remainder (numerator.getLsbD i)).toNat then
          denominator.toNat else 0) =
      (shiftIn v.remainder (numerator.getLsbD i)).toNat := by
  by_cases fits : denominator.toNat ≤ (shiftIn v.remainder (numerator.getLsbD i)).toNat
  · rw [divideStep_fits fits, if_pos fits,
      BitVec.toNat_sub_of_le ((widened_le_iff _ _).mpr fits), toNat_widened]
    exact Nat.sub_add_cancel fits
  · rw [divideStep_short fits, if_neg fits]
    exact Nat.add_zero _

/-- A pass sets its bit of the quotient where the denominator fits. -/
theorem divideStep_quotient (hi : i < dataWidth) {m : Nat}
    (low : v.quotient.toNat = m * 2 ^ (i + 1)) :
    (divideStep numerator denominator i v).quotient.toNat =
      (2 * m + (if denominator.toNat ≤ (shiftIn v.remainder (numerator.getLsbD i)).toNat then
        1 else 0)) * 2 ^ i := by
  by_cases fits : denominator.toNat ≤ (shiftIn v.remainder (numerator.getLsbD i)).toNat
  · rw [divideStep_fits fits, if_pos fits]
    exact toNat_or_twoPow v.quotient i m hi low
  · rw [divideStep_short fits, if_neg fits, low, Nat.pow_succ]
    ring

theorem divideStep_divides (nonzero : denominator ≠ 0) (hi : i < dataWidth)
    (h : DividedTo numerator denominator (i + 1) v) :
    DividedTo numerator denominator i (divideStep numerator denominator i v) := by
  have rem_lt := h.remainder_lt nonzero
  have den_pos : 0 < denominator.toNat := by omega
  have den_lt := denominator.isLt
  have shifted := toNat_shiftIn v.remainder (numerator.getLsbD i) (by omega)
  obtain ⟨div_eq, mod_eq⟩ := long_division_step (numerator.toNat / 2 ^ (i + 1))
    (numerator.getLsbD i).toNat denominator.toNat (Bool.toNat_le _) den_pos
  rw [← bit_split, ← h.remainder, ← shifted] at div_eq mod_eq
  constructor
  · rw [div_eq]
    exact divideStep_quotient hi h.quotient
  · rw [mod_eq]
    exact Nat.eq_sub_of_add_eq divideStep_remainder

end Pass

/-- The local variables after the first `k` passes; the next one, if there is one, is
that for the index `dataWidth - 1 - k`. -/
def afterPasses (numerator denominator : BitVec dataWidth) : Nat → Division dataWidth
  | 0 => { quotient := 0, remainder := 0 }
  | k + 1 => divideStep numerator denominator (dataWidth - 1 - k)
      (afterPasses numerator denominator k)

/-- The loop comes by these variables: what is left of it ends as all of it does. -/
theorem divideLoop_afterPasses (numerator denominator : BitVec dataWidth) {k : Nat}
    (hk : k ≤ dataWidth) :
    divideLoop numerator denominator (dataWidth - k) (afterPasses numerator denominator k) =
      divideLoop numerator denominator dataWidth (afterPasses numerator denominator 0) := by
  induction k with
  | zero => rfl
  | succ k ih =>
      rw [← ih (by omega), show dataWidth - k = (dataWidth - 1 - k) + 1 by omega,
        show dataWidth - (k + 1) = dataWidth - 1 - k by omega]
      rfl

theorem afterPasses_divides {numerator denominator : BitVec dataWidth}
    (nonzero : denominator ≠ 0) {k : Nat} (hk : k ≤ dataWidth) :
    DividedTo numerator denominator (dataWidth - k) (afterPasses numerator denominator k) := by
  induction k with
  | zero => exact dividedTo_start numerator denominator
  | succ k ih =>
      have held := ih (by omega)
      rw [show dataWidth - k = (dataWidth - 1 - k) + 1 by omega] at held
      rw [show dataWidth - (k + 1) = dataWidth - 1 - k by omega]
      exact divideStep_divides nonzero (by omega) held

theorem divideLoop_divides {numerator denominator : BitVec dataWidth}
    (nonzero : denominator ≠ 0) :
    DividedTo numerator denominator 0
      (divideLoop numerator denominator dataWidth (afterPasses numerator denominator 0)) := by
  have last := divideLoop_afterPasses numerator denominator (Nat.le_refl dataWidth)
  have divided : DividedTo numerator denominator _ _ :=
    afterPasses_divides nonzero (Nat.le_refl dataWidth)
  rw [Nat.sub_self] at last divided
  rw [← last]
  exact divided

theorem divideUnsigned_eq_div (numerator denominator : BitVec dataWidth)
    (nonzero : denominator ≠ 0) :
    divideUnsigned numerator denominator = numerator / denominator := by
  have divided : DividedTo numerator denominator 0 _ := divideLoop_divides nonzero
  apply BitVec.eq_of_toNat_eq
  refine divided.quotient.trans ?_
  rw [BitVec.toNat_udiv]
  simp

/-- At every width and for every nonzero denominator: the loop returns the floor
quotient and leaves the remainder of the division. Before each of its passes the
remainder is below the denominator, so that the bit dropped by the shift is zero, the
shift doubles the remainder and brings down the bit, and the pass takes off the
denominator once where it fits, without a borrow. -/
theorem divide_unsigned_correct (numerator denominator : BitVec dataWidth)
    (nonzero : denominator ≠ 0) :
    (divideUnsigned numerator denominator).toNat = numerator.toNat / denominator.toNat ∧
      (divideLoop numerator denominator dataWidth
          (afterPasses numerator denominator 0)).remainder.toNat =
        numerator.toNat % denominator.toNat ∧
      ∀ k, k < dataWidth →
        let v := afterPasses numerator denominator k
        let bit := numerator.getLsbD (dataWidth - 1 - k)
        let shifted := shiftIn v.remainder bit
        divideLoop numerator denominator (dataWidth - k) v =
            divideLoop numerator denominator dataWidth (afterPasses numerator denominator 0) ∧
          v.remainder.toNat < denominator.toNat ∧
          v.remainder.getLsbD dataWidth = false ∧
          shifted.toNat = 2 * v.remainder.toNat + bit.toNat ∧
          (afterPasses numerator denominator (k + 1)).remainder.toNat +
              (if denominator.toNat ≤ shifted.toNat then denominator.toNat else 0) =
            shifted.toNat := by
  refine ⟨?_, ?_, ?_⟩
  · rw [divideUnsigned_eq_div _ _ nonzero, BitVec.toNat_udiv]
  · exact (divideLoop_divides nonzero).remainder.trans (by rw [Nat.pow_zero, Nat.div_one])
  · intro k hk v bit shifted
    have below : v.remainder.toNat < denominator.toNat :=
      (afterPasses_divides nonzero (Nat.le_of_lt hk)).remainder_lt nonzero
    have fits : v.remainder.toNat < 2 ^ dataWidth := Nat.lt_trans below denominator.isLt
    exact ⟨divideLoop_afterPasses numerator denominator (Nat.le_of_lt hk), below,
      Nat.testBit_lt_two_pow fits, toNat_shiftIn v.remainder bit fits,
      divideStep_remainder⟩

theorem divide_unsigned_correct_top_bit :
    (divideUnsigned 13#4 9#4).toNat = 1 ∧
      (divideLoop 13#4 9#4 4 (afterPasses 13#4 9#4 0)).remainder.toNat = 4 ∧
      (afterPasses 13#4 9#4 3).remainder.toNat < 9 := by
  obtain ⟨quotient, remainder, passes⟩ := divide_unsigned_correct 13#4 9#4 (by decide)
  exact ⟨quotient.trans (by decide), remainder.trans (by decide), (passes 3 (by decide)).2.1⟩

end AxiAlu.AluCore
