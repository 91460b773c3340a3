import AxiAlu.Metatheory.ByteLanes

/-!
The register bank by itself, under a write port and a core that are free to do
anything in every cycle. Its operand registers are a function of the writes presented
so far and RESULT is one of the completions, each of them blind to the other.
-/
namespace AxiAlu.AxiRegisterBank
open Clocked
variable {addrWidth dataWidth : Nat}

section Runs
variable (inp : Nat → Input addrWidth dataWidth)

def writesBefore (t : Nat) : List (Write addrWidth dataWidth) :=
  history (fun c => (inp c).write?) t

def completedBefore (t : Nat) : List (BitVec dataWidth) :=
  history (observe (fun c => (inp c).coreDone) (fun c => (inp c).coreResult)) t

theorem regs_run (t : Nat) :
    (machine.run inp t).regs = Registers.after (writesBefore inp t) :=
  Machine.run_view_foldl machine regs (fun _ i => i.write?) Registers.write step_regs inp t

theorem resultReg_run (t : Nat) :
    (machine.run inp t).resultReg = (completedBefore inp t).getLast?.getD 0 := by
  have folded := Machine.run_view_foldl machine resultReg
    (fun _ i => if i.coreDone then some i.coreResult else none) (fun _ word => word)
    (fun s i => (step_resultReg s i).trans (by cases i.coreDone <;> rfl)) inp t
  exact folded.trans (foldl_latest _ _)

theorem resultReg_succ (t : Nat) :
    (machine.run inp (t + 1)).resultReg =
      if (inp t).coreDone then (inp t).coreResult else (machine.run inp t).resultReg :=
  step_resultReg _ _

theorem regs_succ (t : Nat) :
    (machine.run inp (t + 1)).regs =
      (inp t).write?.elim (machine.run inp t).regs (machine.run inp t).regs.write :=
  step_regs _ _

end Runs

theorem write_elsewhere (r : Registers dataWidth) {w : Write addrWidth dataWidth}
    (elsewhere : w.addr ∉ [addrA, addrB, addrOpcode]) : r.write w = r := by
  simp only [List.mem_cons, List.not_mem_nil, or_false, not_or] at elsewhere
  obtain ⟨a, b, opcode⟩ := elsewhere
  simp [Registers.write, a, b, opcode]

section Multiplexer
variable (legal : LegalWidths addrWidth dataWidth) (s : AxiRegisterBank dataWidth)
include legal

theorem rdData_a : s.rdData (addrA : BitVec addrWidth) = s.operandA := by
  simp (disch := decide) [rdData, addrA, addrStatus, addrCtrl, legal.address_eq_iff]

theorem rdData_b : s.rdData (addrB : BitVec addrWidth) = s.operandB := by
  simp (disch := decide) [rdData, addrA, addrB, addrStatus, addrCtrl, legal.address_eq_iff]

theorem rdData_opcode :
    s.rdData (addrOpcode : BitVec addrWidth) = s.opcode.setWidth dataWidth := by
  simp (disch := decide) [rdData, addrA, addrB, addrOpcode, addrStatus, addrCtrl,
    legal.address_eq_iff]

theorem rdData_result : s.rdData (addrResult : BitVec addrWidth) = s.resultReg := by
  simp (disch := decide) [rdData, addrA, addrB, addrOpcode, addrResult, addrStatus, addrCtrl,
    legal.address_eq_iff]

omit legal in
theorem rdData_unmapped {addr : BitVec addrWidth}
    (unmapped : addr ∉ [addrStatus, addrA, addrB, addrOpcode, addrResult]) :
    s.rdData addr = 0 := by
  simp only [List.mem_cons, List.not_mem_nil, or_false, not_or] at unmapped
  obtain ⟨status, a, b, opcode, result⟩ := unmapped
  rw [s.rdData_regs status result]
  exact Registers.read_unmapped _ a b opcode

end Multiplexer

section Laws
variable (legal : LegalWidths addrWidth dataWidth) (inp : Nat → Input addrWidth dataWidth)
  (t : Nat)
include legal

theorem registers_run :
    (∀ i, i < dataWidth / 8 → byteLane (machine.run inp t).operandA i =
      lastHit (Write.hitsLane addrA i) (fun w => byteLane w.data i) 0 (writesBefore inp t)) ∧
    (∀ i, i < dataWidth / 8 → byteLane (machine.run inp t).operandB i =
      lastHit (Write.hitsLane addrB i) (fun w => byteLane w.data i) 0 (writesBefore inp t)) ∧
    (machine.run inp t).opcode =
      lastHit (Write.hitsLane addrOpcode 0) (fun w => w.data.setWidth 4) 0
        (writesBefore inp t) := by
  have regs := regs_run inp t
  refine ⟨?_, ?_, ?_⟩
  · intro i hi
    rw [← Registers.after_a legal _ hi, ← regs]
    rfl
  · intro i hi
    rw [← Registers.after_b legal _ hi, ← regs]
    rfl
  · rw [← Registers.after_opcode legal, ← regs]
    rfl

/-- A write takes effect, whether or not the core completes in its cycle. -/
theorem written_succ {w : Write addrWidth dataWidth} (written : (inp t).write? = some w) :
    (w.addr = addrA → (machine.run inp (t + 1)).operandA =
      applyStrb (machine.run inp t).operandA w.data w.strb) ∧
    (w.addr = addrB → (machine.run inp (t + 1)).operandB =
      applyStrb (machine.run inp t).operandB w.data w.strb) ∧
    (w.addr = addrOpcode → w.strb.getLsbD 0 = true →
      (machine.run inp (t + 1)).opcode = w.data.setWidth 4) := by
  have regs := regs_succ inp t
  rw [written, Option.elim_some] at regs
  refine ⟨?_, ?_, ?_⟩
  · intro atA
    rw [applyStrb_eq_mergeLanes]
    refine (congrArg Registers.a regs).trans ?_
    exact (Registers.write_a legal _ w).trans (if_pos atA)
  · intro atB
    rw [applyStrb_eq_mergeLanes]
    refine (congrArg Registers.b regs).trans ?_
    exact (Registers.write_b legal _ w).trans (if_pos atB)
  · intro atOpcode selected
    have hits : Write.hitsLane addrOpcode 0 w = true := by
      rw [Write.hitsLane, atOpcode, selected]
      simp
    refine (congrArg Registers.opcode regs).trans ?_
    exact (Registers.write_opcode legal _ w).trans (if_pos hits)

omit legal in
theorem unwritten_succ {w : Write addrWidth dataWidth} (written : (inp t).write? = some w)
    (elsewhere : w.addr ∉ [addrA, addrB, addrOpcode]) :
    (machine.run inp (t + 1)).operandA = (machine.run inp t).operandA ∧
      (machine.run inp (t + 1)).operandB = (machine.run inp t).operandB ∧
      (machine.run inp (t + 1)).opcode = (machine.run inp t).opcode := by
  have regs := regs_succ inp t
  rw [written, Option.elim_some, write_elsewhere _ elsewhere] at regs
  exact ⟨congrArg Registers.a regs, congrArg Registers.b regs, congrArg Registers.opcode regs⟩

end Laws

/-- At every legal width and for every run: each lane of A and B is that of the last
write that selected it, OPCODE the low nibble of the last write that selected its lane
and RESULT that of the last completion, zero where there was none; RESULT follows the
completions whatever is written, a write elsewhere changes no operand register, and a
write that meets a completion takes effect beside it; and the multiplexer shows these
registers at their addresses and zero at CTRL and at unmapped ones. -/
theorem bank_history_law (legal : LegalWidths addrWidth dataWidth)
    (inp : Nat → Input addrWidth dataWidth) :
    (∀ t, let s := machine.run inp t
      (∀ i, i < dataWidth / 8 → byteLane s.operandA i =
        lastHit (Write.hitsLane addrA i) (fun w => byteLane w.data i) 0 (writesBefore inp t)) ∧
      (∀ i, i < dataWidth / 8 → byteLane s.operandB i =
        lastHit (Write.hitsLane addrB i) (fun w => byteLane w.data i) 0 (writesBefore inp t)) ∧
      s.opcode = lastHit (Write.hitsLane addrOpcode 0) (fun w => w.data.setWidth 4) 0
        (writesBefore inp t) ∧
      s.resultReg = (completedBefore inp t).getLast?.getD 0) ∧
    (∀ t, let s := machine.run inp t
      let s' := machine.run inp (t + 1)
      s'.resultReg = (if (inp t).coreDone then (inp t).coreResult else s.resultReg) ∧
      (∀ w, (inp t).write? = some w → w.addr ∉ [addrA, addrB, addrOpcode] →
        s'.operandA = s.operandA ∧ s'.operandB = s.operandB ∧ s'.opcode = s.opcode) ∧
      (∀ w, (inp t).write? = some w → (inp t).coreDone = true →
        s'.resultReg = (inp t).coreResult ∧
        (w.addr = addrA → s'.operandA = applyStrb s.operandA w.data w.strb) ∧
        (w.addr = addrB → s'.operandB = applyStrb s.operandB w.data w.strb) ∧
        (w.addr = addrOpcode → w.strb.getLsbD 0 = true → s'.opcode = w.data.setWidth 4))) ∧
    (∀ t, let s := machine.run inp t
      s.rdData (addrCtrl : BitVec addrWidth) = 0 ∧
      s.rdData (addrA : BitVec addrWidth) = s.operandA ∧
      s.rdData (addrB : BitVec addrWidth) = s.operandB ∧
      s.rdData (addrOpcode : BitVec addrWidth) = s.opcode.setWidth dataWidth ∧
      s.rdData (addrResult : BitVec addrWidth) = s.resultReg ∧
      ∀ addr : BitVec addrWidth, addr ∉ [addrStatus, addrA, addrB, addrOpcode, addrResult] →
        s.rdData addr = 0) := by
  refine ⟨?_, ?_, ?_⟩
  · intro t s
    obtain ⟨a, b, opcode⟩ := registers_run legal inp t
    exact ⟨a, b, opcode, resultReg_run inp t⟩
  · intro t s s'
    have result : s'.resultReg = _ := resultReg_succ inp t
    refine ⟨result, fun w written elsewhere => unwritten_succ inp t written elsewhere, ?_⟩
    intro w written done
    exact ⟨result.trans (if_pos done), written_succ legal inp t written⟩
  · intro t s
    exact ⟨if_pos rfl, rdData_a legal s, rdData_b legal s, rdData_opcode legal s,
      rdData_result legal s, fun addr unmapped => rdData_unmapped s unmapped⟩

/-- The two lanes of A are written one after the other, the second together with a
completion. -/
def lanesApart : Nat → Input 5 16
  | 0 => { wrEn := true, wrAddr := 0x08, wrData := 0x1234, wrStrb := 0b01, coreResult := 0
           coreDone := false, coreError := false }
  | _ => { wrEn := true, wrAddr := 0x08, wrData := 0xABCD, wrStrb := 0b10, coreResult := 0x0007
           coreDone := true, coreError := false }

theorem bank_history_law_lanes_apart :
    byteLane (machine.run lanesApart 2).operandA 0 = 0x34#8 ∧
      byteLane (machine.run lanesApart 2).operandA 1 = 0xAB#8 ∧
      (machine.run lanesApart 2).resultReg = 7#16 := by
  have law := bank_history_law ⟨by decide, by decide, by decide⟩ lanesApart
  obtain ⟨lanes, _, _, result⟩ := law.1 2
  exact ⟨(lanes 0 (by decide)).trans (by decide), (lanes 1 (by decide)).trans (by decide),
    result.trans (by decide)⟩

end AxiAlu.AxiRegisterBank
