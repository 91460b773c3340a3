import AxiAlu.Clocked.History
import AxiAlu.Metatheory.RegisterBankSteps
import AxiAlu.Spec.Accelerator

/-!
The byte strobes. A merge takes every selected lane from the new word and every
other one from the old, whatever the number of lanes; over a list of writes each
lane of a register is the lane of the last write that selected it. The address
map of the registers is injective once addresses have five bits.
-/
namespace AxiAlu
open Clocked

namespace AxiRegisterBank
variable {dataWidth : Nat}

theorem byteLane_mergeLanes (oldData newData : BitVec dataWidth)
    (strb : BitVec (dataWidth / 8)) {i : Nat} (hi : i < dataWidth / 8) :
    byteLane (mergeLanes oldData newData strb) i =
      if strb.getLsbD i then byteLane newData i else byteLane oldData i := by
  apply BitVec.eq_of_getLsbD_eq
  intro k hk
  have place : (i * 8 + k) / 8 = i := by omega
  have inside : i * 8 + k < dataWidth := by omega
  simp only [byteLane, apply_ite (fun v : BitVec 8 => v.getLsbD k), BitVec.getLsbD_extractLsb',
    hk, decide_true, Bool.true_and, getLsbD_mergeLanes _ _ _ inside, place]

theorem mergeLanes_full (bytes : 8 ∣ dataWidth) (oldData newData : BitVec dataWidth) :
    mergeLanes oldData newData (BitVec.allOnes (dataWidth / 8)) = newData := by
  apply BitVec.eq_of_getLsbD_eq
  intro j hj
  have lane : j / 8 < dataWidth / 8 := Nat.div_lt_div_of_lt_of_dvd bytes hj
  simp [getLsbD_mergeLanes _ _ _ hj, lane]

/-- The low nibble lies in lane 0. -/
theorem nibble_mergeLanes (wide : 8 ≤ dataWidth) (oldData newData : BitVec dataWidth)
    (strb : BitVec (dataWidth / 8)) :
    (mergeLanes oldData newData strb).setWidth 4 =
      if strb.getLsbD 0 then newData.setWidth 4 else oldData.setWidth 4 := by
  apply BitVec.eq_of_getLsbD_eq
  intro k hk
  have place : k / 8 = 0 := by omega
  have inside : k < dataWidth := by omega
  simp only [apply_ite (fun v : BitVec 4 => v.getLsbD k), BitVec.getLsbD_setWidth, hk,
    decide_true, Bool.true_and, getLsbD_mergeLanes oldData newData strb inside, place]

@[simp] theorem byteLane_zero (i : Nat) : byteLane (0 : BitVec dataWidth) i = 0 := by
  simp [byteLane]

end AxiRegisterBank

open AxiRegisterBank
variable {addrWidth dataWidth : Nat}

namespace LegalWidths

theorem one_lane (legal : LegalWidths addrWidth dataWidth) : 8 ≤ dataWidth :=
  Nat.le_of_dvd legal.positive legal.bytes

/-- Addresses below 32 are told apart. -/
theorem address_eq_iff (legal : LegalWidths addrWidth dataWidth) {k l : Nat} (hk : k < 32)
    (hl : l < 32) : BitVec.ofNat addrWidth k = BitVec.ofNat addrWidth l ↔ k = l := by
  have room : 2 ^ 5 ≤ 2 ^ addrWidth := Nat.pow_le_pow_right (by decide) legal.addr
  rw [← BitVec.toNat_inj, BitVec.toNat_ofNat, BitVec.toNat_ofNat,
    Nat.mod_eq_of_lt (by omega), Nat.mod_eq_of_lt (by omega)]

end LegalWidths

namespace Registers
variable (legal : LegalWidths addrWidth dataWidth) (r : Registers dataWidth)
  (w : Write addrWidth dataWidth)
include legal

theorem write_a :
    (r.write w).a = if w.addr = addrA then mergeLanes r.a w.data w.strb else r.a := by
  by_cases hit : w.addr = addrA
  · simp (disch := decide) [write, hit, addrA, addrCtrl, legal.address_eq_iff]
  · simp only [write, hit, if_false]
    split_ifs <;> rfl

theorem write_b :
    (r.write w).b = if w.addr = addrB then mergeLanes r.b w.data w.strb else r.b := by
  by_cases hit : w.addr = addrB
  · simp (disch := decide) [write, hit, addrA, addrB, addrCtrl, legal.address_eq_iff]
  · simp only [write, hit, if_false]
    split_ifs <;> rfl

theorem write_opcode :
    (r.write w).opcode = if Write.hitsLane addrOpcode 0 w then w.data.setWidth 4 else r.opcode := by
  by_cases hit : w.addr = addrOpcode
  · have wide := legal.one_lane
    have kept : (r.opcode.setWidth dataWidth).setWidth 4 = r.opcode := by
      rw [BitVec.setWidth_setWidth_of_le _ (by omega), BitVec.setWidth_eq]
    simp (disch := decide) [write, hit, addrA, addrB, addrOpcode, addrCtrl, legal.address_eq_iff,
      nibble_mergeLanes wide, kept, Write.hitsLane]
  · simp only [write, Write.hitsLane, hit, decide_false, Bool.false_and, if_false]
    split_ifs <;> first | rfl | contradiction

omit legal in
/-- A register into which the writes to its address are merged holds, in each lane,
the lane of the last write that selected it. -/
theorem after_lane (view : Registers dataWidth → BitVec dataWidth) (target : BitVec addrWidth)
    (law : ∀ r w, view (write r w) = if w.addr = target then mergeLanes (view r) w.data w.strb
      else view r)
    (init : view zero = 0) (ws : List (Write addrWidth dataWidth)) {i : Nat}
    (hi : i < dataWidth / 8) :
    byteLane (view (after ws)) i =
      lastHit (Write.hitsLane target i) (fun w => byteLane w.data i) 0 ws := by
  have last := foldl_lastHit write (fun r : Registers dataWidth => byteLane (view r) i)
    (Write.hitsLane target i) (fun w => byteLane w.data i) (fun r w => ?_) zero ws
  · rw [after, last, init, byteLane_zero]
  · rw [law, Write.hitsLane]
    by_cases hit : w.addr = target
    · simp [hit, byteLane_mergeLanes _ _ _ hi]
    · simp [hit]

theorem after_a (ws : List (Write addrWidth dataWidth)) {i : Nat} (hi : i < dataWidth / 8) :
    byteLane (after ws).a i =
      lastHit (Write.hitsLane addrA i) (fun w => byteLane w.data i) 0 ws :=
  after_lane a addrA (write_a legal) rfl ws hi

theorem after_b (ws : List (Write addrWidth dataWidth)) {i : Nat} (hi : i < dataWidth / 8) :
    byteLane (after ws).b i =
      lastHit (Write.hitsLane addrB i) (fun w => byteLane w.data i) 0 ws :=
  after_lane b addrB (write_b legal) rfl ws hi

/-- OPCODE holds the low nibble of the last write that selected its lane. -/
theorem after_opcode (ws : List (Write addrWidth dataWidth)) :
    (after ws).opcode =
      lastHit (Write.hitsLane addrOpcode 0) (fun w => w.data.setWidth 4) 0 ws :=
  foldl_lastHit write opcode (Write.hitsLane addrOpcode 0) (fun w => w.data.setWidth 4)
    (fun r w => write_opcode legal r w) zero ws

theorem read_a : r.read (addrA : BitVec addrWidth) = r.a := by
  simp (disch := decide) [read, addrA, addrCtrl, legal.address_eq_iff]

theorem read_b : r.read (addrB : BitVec addrWidth) = r.b := by
  simp (disch := decide) [read, addrA, addrB, addrCtrl, legal.address_eq_iff]

theorem read_opcode : r.read (addrOpcode : BitVec addrWidth) = r.opcode.setWidth dataWidth := by
  simp (disch := decide) [read, addrA, addrB, addrOpcode, addrCtrl, legal.address_eq_iff]

omit legal in
theorem read_unmapped {addr : BitVec addrWidth} (a : addr ≠ addrA) (b : addr ≠ addrB)
    (opcode : addr ≠ addrOpcode) : r.read addr = 0 := by
  simp [read, a, b, opcode]

/-- What a list of writes leaves to be read, by address. -/
theorem read_after (ws : List (Write addrWidth dataWidth)) (addr : BitVec addrWidth) :
    (addr = addrA → ∀ i, i < dataWidth / 8 → byteLane ((after ws).read addr) i =
      lastHit (Write.hitsLane addrA i) (fun w => byteLane w.data i) 0 ws) ∧
    (addr = addrB → ∀ i, i < dataWidth / 8 → byteLane ((after ws).read addr) i =
      lastHit (Write.hitsLane addrB i) (fun w => byteLane w.data i) 0 ws) ∧
    (addr = addrOpcode → (after ws).read addr =
      (lastHit (Write.hitsLane addrOpcode 0) (fun w => w.data.setWidth 4) 0 ws).setWidth
        dataWidth) ∧
    (addr ∉ [addrA, addrB, addrOpcode] → (after ws).read addr = 0) := by
  refine ⟨?_, ?_, ?_, ?_⟩
  · rintro rfl i hi
    rw [read_a legal, after_a legal ws hi]
  · rintro rfl i hi
    rw [read_b legal, after_b legal ws hi]
  · rintro rfl
    rw [read_opcode legal, after_opcode legal]
  · intro other
    simp only [List.mem_cons, List.not_mem_nil, or_false, not_or] at other
    exact read_unmapped _ other.1 other.2.1 other.2.2

end Registers

namespace Engine
variable (e : Engine dataWidth)

theorem read_regs {addr : BitVec addrWidth} (notStatus : addr ≠ addrStatus)
    (notResult : addr ≠ addrResult) : e.read addr = e.regs.read addr := by
  simp only [read, Registers.read, if_neg notStatus, if_neg notResult]

theorem read_a (legal : LegalWidths addrWidth dataWidth) :
    e.read (addrA : BitVec addrWidth) = e.regs.a := by
  simp (disch := decide) [read, addrA, addrStatus, addrCtrl, legal.address_eq_iff]

theorem read_b (legal : LegalWidths addrWidth dataWidth) :
    e.read (addrB : BitVec addrWidth) = e.regs.b := by
  simp (disch := decide) [read, addrA, addrB, addrStatus, addrCtrl, legal.address_eq_iff]

theorem read_opcode (legal : LegalWidths addrWidth dataWidth) :
    e.read (addrOpcode : BitVec addrWidth) = e.regs.opcode.setWidth dataWidth := by
  simp (disch := decide) [read, addrA, addrB, addrOpcode, addrStatus, addrCtrl,
    legal.address_eq_iff]

theorem read_status (legal : LegalWidths addrWidth dataWidth) :
    e.read (addrStatus : BitVec addrWidth) = e.status.setWidth dataWidth := by
  simp (disch := decide) [read, addrStatus, addrCtrl, legal.address_eq_iff]

theorem read_result (legal : LegalWidths addrWidth dataWidth) :
    e.read (addrResult : BitVec addrWidth) = e.result := by
  simp (disch := decide) [read, addrA, addrB, addrOpcode, addrResult, addrStatus, addrCtrl,
    legal.address_eq_iff]

end Engine
end AxiAlu
