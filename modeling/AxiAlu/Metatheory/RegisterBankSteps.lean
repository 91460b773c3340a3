import AxiAlu.Spec.Registers

/-!
What one clock edge does to the register bank, said once: the operand registers
follow the write port, the start pulse and the busy status follow an honoured
start, and the status and result follow the completion. Later modules use these
laws and the read laws below them; none unfolds the clocked block again.
-/
namespace AxiAlu
namespace AxiRegisterBank
variable {addrWidth dataWidth : Nat}

theorem getLsbD_setByteLane (word : BitVec dataWidth) (i : Nat) (byte : BitVec 8) {j : Nat}
    (hj : j < dataWidth) :
    (setByteLane word i byte).getLsbD j =
      if j / 8 = i then byte.getLsbD (j % 8) else word.getLsbD j := by
  simp only [setByteLane, BitVec.getLsbD_or, BitVec.getLsbD_and, BitVec.getLsbD_not,
    BitVec.getLsbD_shiftLeft, BitVec.getLsbD_setWidth, BitVec.getLsbD_allOnes, hj]
  by_cases below : j < i * 8
  · have outside : j / 8 ≠ i := by omega
    simp [below, outside]
  · by_cases inside : j / 8 = i
    · have place : j - i * 8 = j % 8 := by omega
      simp [below, inside, place, Nat.mod_lt, Nat.lt_of_le_of_lt (Nat.mod_le j 8) hj]
    · have bound : j - i * 8 < dataWidth := by omega
      have beyond : ¬ j - i * 8 < 8 := by omega
      simp [below, inside, bound, beyond, BitVec.getLsbD_of_ge byte (j - i * 8) (by omega)]

theorem getLsbD_applyStrbLoop (newData merged : BitVec dataWidth)
    (strb : BitVec (dataWidth / 8)) (n : Nat) {j : Nat} (hj : j < dataWidth) :
    (applyStrbLoop newData strb n merged).getLsbD j =
      if j / 8 < n ∧ strb.getLsbD (j / 8) = true then newData.getLsbD j
      else merged.getLsbD j := by
  induction n with
  | zero => simp [applyStrbLoop]
  | succ n ih =>
      simp only [applyStrbLoop]
      by_cases here : j / 8 = n
      · have place : n * 8 + j % 8 = j := by omega
        cases selected : strb.getLsbD n with
        | true =>
            rw [if_pos rfl, getLsbD_setByteLane _ _ _ hj, if_pos here, byteLane,
              BitVec.getLsbD_extractLsb', place]
            simp [here, selected, Nat.mod_lt]
        | false =>
            rw [if_neg (by simp), ih]
            simp [here, selected]
      · have reach : j / 8 < n + 1 ↔ j / 8 < n := by omega
        simp only [reach]
        cases strb.getLsbD n with
        | true => rw [if_pos rfl, getLsbD_setByteLane _ _ _ hj, if_neg here, ih]
        | false => rw [if_neg (by simp), ih]

theorem getLsbD_applyStrb (oldData newData : BitVec dataWidth) (strb : BitVec (dataWidth / 8))
    {j : Nat} (hj : j < dataWidth) :
    (applyStrb oldData newData strb).getLsbD j =
      if strb.getLsbD (j / 8) then newData.getLsbD j else oldData.getLsbD j := by
  rw [applyStrb, getLsbD_applyStrbLoop _ _ _ _ hj]
  by_cases selected : strb.getLsbD (j / 8) = true
  · have lane : j / 8 < dataWidth / 8 := BitVec.lt_of_getLsbD selected
    simp [selected, lane]
  · simp [selected]

/-- The loop merges the selected lanes. -/
theorem applyStrb_eq_mergeLanes (oldData newData : BitVec dataWidth)
    (strb : BitVec (dataWidth / 8)) :
    applyStrb oldData newData strb = mergeLanes oldData newData strb := by
  apply BitVec.eq_of_getLsbD_eq
  intro j hj
  rw [getLsbD_applyStrb _ _ _ hj, getLsbD_mergeLanes _ _ _ hj]

def Input.write? (i : Input addrWidth dataWidth) : Option (Write addrWidth dataWidth) :=
  Write.ofPort i.wrEn i.wrAddr i.wrData i.wrStrb

def regs (s : AxiRegisterBank dataWidth) : Registers dataWidth :=
  { a := s.operandA, b := s.operandB, opcode := s.opcode }

def honours (s : AxiRegisterBank dataWidth) (i : Input addrWidth dataWidth) : Bool :=
  i.write?.any Write.isStart && !s.statusReg.getLsbD 0

theorem step_regs (s : AxiRegisterBank dataWidth) (i : Input addrWidth dataWidth) :
    (s.step i).regs = i.write?.elim s.regs s.regs.write := by
  cases hd : i.coreDone <;> cases he : i.wrEn <;>
    simp only [step, regs, Input.write?, Write.ofPort, Registers.write, opcodeWord,
      applyStrb_eq_mergeLanes, hd, he, if_true, Bool.false_eq_true, if_false, Option.elim_none,
      Option.elim_some]
  all_goals split_ifs <;> rfl

theorem step_startPulse (s : AxiRegisterBank dataWidth) (i : Input addrWidth dataWidth) :
    (s.step i).startPulse = s.honours i := by
  cases hd : i.coreDone <;> cases he : i.wrEn <;>
    simp only [step, honours, Input.write?, Write.ofPort, Write.isStart, hd, he, if_true,
      Bool.false_eq_true, if_false, Option.any_none, Option.any_some, Bool.false_and]
  all_goals split_ifs <;> simp_all

theorem step_statusReg (s : AxiRegisterBank dataWidth) (i : Input addrWidth dataWidth) :
    (s.step i).statusReg =
      if i.coreDone then BitVec.ofBool i.coreError ++ 0b10#2
      else if s.honours i then 0b001#3 else s.statusReg := by
  cases hd : i.coreDone <;> cases he : i.wrEn <;>
    simp only [step, honours, Input.write?, Write.ofPort, Write.isStart, hd, he, if_true,
      Bool.false_eq_true, if_false, Option.any_none, Option.any_some, Bool.false_and]
  all_goals split_ifs <;> simp_all

theorem step_resultReg (s : AxiRegisterBank dataWidth) (i : Input addrWidth dataWidth) :
    (s.step i).resultReg = if i.coreDone then i.coreResult else s.resultReg := by
  cases hd : i.coreDone <;> cases he : i.wrEn <;>
    simp only [step, hd, he, if_true, Bool.false_eq_true, if_false]
  all_goals split_ifs <;> rfl

/-- A start write that is not honoured changes nothing that its absence would not. -/
theorem step_refused (s : AxiRegisterBank dataWidth) (i : Input addrWidth dataWidth)
    (start : i.write?.any Write.isStart = true) (refused : s.honours i = false) :
    s.step i = s.step { i with wrEn := false } := by
  have busy : s.statusReg.getLsbD 0 = true := by
    simpa [honours, start] using refused
  cases he : i.wrEn with
  | false => rw [← he]
  | true =>
      simp only [Input.write?, Write.ofPort, he, if_true, Option.any_some, Write.isStart,
        Bool.and_eq_true, decide_eq_true_eq] at start
      simp only [step, he, start.1.1, busy, Bool.not_true, Bool.and_false, if_true,
        Bool.false_eq_true, if_false]

/-- Apart from STATUS and RESULT the read multiplexer shows the operand registers. -/
theorem rdData_regs (s : AxiRegisterBank dataWidth) {addr : BitVec addrWidth}
    (notStatus : addr ≠ addrStatus) (notResult : addr ≠ addrResult) :
    s.rdData addr = s.regs.read addr := by
  simp only [rdData, Registers.read, regs, if_neg notStatus, if_neg notResult]

end AxiRegisterBank
end AxiAlu
