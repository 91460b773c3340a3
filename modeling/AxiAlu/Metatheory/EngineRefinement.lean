import AxiAlu.Metatheory.AluCoreOperations
import AxiAlu.Metatheory.RegisterBankSteps
import AxiAlu.Metatheory.EngineLaws
import AxiAlu.Rtl.AvalonAxi4LiteAlu

/-!
The bank wired to the core refines the abstract engine. The three busy cycles of
an operation are the start pulse, the core's busy and the core's done; the engine
counts them down, and the relation says which registers of the two blocks carry
the outcome in each of them.
-/
namespace AxiAlu
open Clocked

namespace BankAlu
variable {addrWidth dataWidth : Nat}

def Input.write? (i : Input addrWidth dataWidth) : Option (Write addrWidth dataWidth) :=
  Write.ofPort i.wrEn i.wrAddr i.wrData i.wrStrb

def honours (s : BankAlu dataWidth) (i : Input addrWidth dataWidth) : Bool :=
  s.bank.honours (s.bankInput i)

theorem honours_eq (s : BankAlu dataWidth) (i : Input addrWidth dataWidth) :
    s.honours i = (i.write?.any Write.isStart && !s.bank.statusReg.getLsbD 0) := rfl

/-- How the registers of bank and core stand for a state of the engine. -/
structure Tracks (s : BankAlu dataWidth) (e : Engine dataWidth) : Prop where
  regs : s.bank.regs = e.regs
  status : s.bank.statusReg = e.status
  result : s.bank.resultReg = e.result
  start : s.bank.startPulse = (e.wait == 3)
  busy : s.alu.busy = (e.wait == 2)
  done : s.alu.done = (e.wait == 1)
  bound : e.wait ≤ 3
  issued : e.wait = 3 → e.ops.getLast? = some e.regs.outcome
  computed : e.wait = 2 ∨ e.wait = 1 → e.ops.getLast? = some (s.alu.result, s.alu.error)

theorem tracks_reset : Tracks (reset : BankAlu dataWidth) Engine.reset := by
  constructor <;> simp [reset, AxiRegisterBank.reset, AluCore.reset, Engine.reset,
    AxiRegisterBank.regs, Registers.zero, Engine.status, Engine.result, published]

theorem Tracks.honours_eq_starts {s : BankAlu dataWidth} {e : Engine dataWidth}
    (h : Tracks s e) (i : Input addrWidth dataWidth) :
    s.honours i = e.starts i.write? := by
  rw [honours_eq, h.status, Engine.status_busy, Bool.not_not, Engine.starts]

theorem bank_step_running (s : BankAlu dataWidth) (i : Input addrWidth dataWidth)
    (running : s.alu.done = false) :
    (s.step i).bank.statusReg = (if s.honours i then 0b001#3 else s.bank.statusReg) ∧
      (s.step i).bank.resultReg = s.bank.resultReg := by
  have done : (s.bankInput i).coreDone = false := running
  constructor
  · change (s.bank.step (s.bankInput i)).statusReg = _
    rw [AxiRegisterBank.step_statusReg, done]
    rfl
  · change (s.bank.step (s.bankInput i)).resultReg = _
    rw [AxiRegisterBank.step_resultReg, done]
    rfl

theorem bank_step_done (s : BankAlu dataWidth) (i : Input addrWidth dataWidth)
    (done : s.alu.done = true) :
    (s.step i).bank.statusReg = BitVec.ofBool s.alu.error ++ 0b10#2 ∧
      (s.step i).bank.resultReg = s.alu.result := by
  have done' : (s.bankInput i).coreDone = true := done
  constructor
  · change (s.bank.step (s.bankInput i)).statusReg = _
    rw [AxiRegisterBank.step_statusReg, done']
    rfl
  · change (s.bank.step (s.bankInput i)).resultReg = _
    rw [AxiRegisterBank.step_resultReg, done']
    rfl

section Step
variable {s : BankAlu dataWidth} {e : Engine dataWidth} (h : Tracks s e)
  (i : Input addrWidth dataWidth)
include h

theorem Tracks.step_regs : (s.step i).bank.regs = (e.step i.write?).regs := by
  rw [Engine.step_regs, ← h.regs]
  exact AxiRegisterBank.step_regs s.bank (s.bankInput i)

theorem Tracks.step_startPulse : (s.step i).bank.startPulse = e.starts i.write? := by
  rw [← h.honours_eq_starts]
  exact AxiRegisterBank.step_startPulse s.bank (s.bankInput i)

theorem Tracks.step_unpublished (running : 1 < e.wait) :
    (s.step i).bank.statusReg = (e.step i.write?).status ∧
      (s.step i).bank.resultReg = (e.step i.write?).result := by
  obtain ⟨wait', ops'⟩ := e.step_of_waiting i.write? (by omega)
  have working : s.alu.done = false := by
    rw [h.done, beq_eq_false_iff_ne]
    omega
  obtain ⟨status', result'⟩ := s.bank_step_running i working
  constructor
  · rw [status', h.honours_eq_starts, e.starts_of_waiting _ (by omega), h.status,
      e.status_waiting (by omega), Engine.status_waiting _ (by omega)]
    rfl
  · rw [result', h.result, e.result_waiting (by omega), Engine.result_waiting _ (by omega), ops']

/-- The start pulse: the core takes the operands, which the bank still holds. -/
theorem Tracks.step_start (hw : e.wait = 3) : Tracks (s.step i) (e.step i.write?) := by
  obtain ⟨wait', ops'⟩ := e.step_of_waiting i.write? (by omega)
  obtain ⟨status', result'⟩ := h.step_unpublished i (by omega)
  have start : s.alu.busy = false ∧ s.bank.startPulse = true := by
    rw [h.busy, h.start, hw]
    exact ⟨rfl, rfl⟩
  have alu' : (s.step i).alu =
      { result := e.regs.outcome.1, busy := true, done := false, error := e.regs.outcome.2 } := by
    have accepted : s.alu.accepts s.aluInput = true := by
      rw [AluCore.accepts, start.1]
      exact congrArg (· && true) start.2
    rw [← h.regs]
    exact AluCore.step_accepted s.alu accepted
  constructor
  · exact h.step_regs i
  · exact status'
  · exact result'
  · rw [h.step_startPulse, e.starts_of_waiting _ (by omega), wait', hw]
    rfl
  · rw [alu', wait', hw]
    rfl
  · rw [alu', wait', hw]
    rfl
  · omega
  · intro _
    omega
  · intro _
    rw [ops', h.issued hw, alu']

/-- The core is busy: its result registers stay as they are. -/
theorem Tracks.step_busy (hw : e.wait = 2) : Tracks (s.step i) (e.step i.write?) := by
  obtain ⟨wait', ops'⟩ := e.step_of_waiting i.write? (by omega)
  obtain ⟨status', result'⟩ := h.step_unpublished i (by omega)
  have busy : s.alu.busy = true := by
    rw [h.busy, hw]
    rfl
  have alu' : (s.step i).alu = { s.alu with busy := false, done := true } :=
    AluCore.step_busy s.alu s.aluInput busy
  constructor
  · exact h.step_regs i
  · exact status'
  · exact result'
  · rw [h.step_startPulse, e.starts_of_waiting _ (by omega), wait', hw]
    rfl
  · rw [alu', wait', hw]
    rfl
  · rw [alu', wait', hw]
    rfl
  · omega
  · intro _
    omega
  · intro _
    rw [ops', h.computed (Or.inl hw), alu']

/-- With neither a start pulse nor an operation the core only lowers its done. -/
theorem Tracks.alu_step_idle (low : e.wait ≤ 1) :
    (s.step i).alu = { s.alu with done := false } ∧ s.alu.busy = false := by
  have quiet : s.bank.startPulse = false := by
    rw [h.start, beq_eq_false_iff_ne]
    omega
  have free : s.alu.busy = false := by
    rw [h.busy, beq_eq_false_iff_ne]
    omega
  exact ⟨AluCore.step_idle s.alu quiet free, free⟩

/-- The core is done: the bank latches the outcome and publishes it. -/
theorem Tracks.step_done (hw : e.wait = 1) : Tracks (s.step i) (e.step i.write?) := by
  obtain ⟨wait', ops'⟩ := e.step_of_waiting i.write? (by omega)
  obtain ⟨alu', free⟩ := h.alu_step_idle i (by omega)
  have last := h.computed (Or.inr hw)
  have done : s.alu.done = true := by
    rw [h.done, hw]
    rfl
  obtain ⟨status', result'⟩ := s.bank_step_done i done
  rw [hw] at wait'
  constructor
  · exact h.step_regs i
  · rw [status', Engine.status_published _ wait' (ops' ▸ last)]
  · rw [result', Engine.result_published _ wait', ops', published, last]
    rfl
  · rw [h.step_startPulse, e.starts_of_waiting _ (by omega), wait']
    rfl
  · rw [alu', wait']
    exact free
  · rw [alu', wait']
    rfl
  · omega
  · intro _
    omega
  · intro _
    omega

/-- Nothing waits: a start is honoured, anything else is an ordinary write. -/
theorem Tracks.step_free (hw : e.wait = 0) : Tracks (s.step i) (e.step i.write?) := by
  obtain ⟨alu', free⟩ := h.alu_step_idle i (by omega)
  have finished : s.alu.done = false := by
    rw [h.done, hw]
    rfl
  obtain ⟨status', result'⟩ := s.bank_step_running i finished
  cases started : e.starts i.write? with
  | true =>
      have wait' : (e.step i.write?).wait = 3 := by rw [Engine.step_wait, started]; rfl
      have ops' : (e.step i.write?).ops = e.ops ++ [e.regs.outcome] := by
        rw [Engine.step_ops, started]; rfl
      constructor
      · exact h.step_regs i
      · rw [status', h.honours_eq_starts, started, Engine.status_waiting _ (by omega)]
        rfl
      · rw [result', h.result, e.result_published hw, Engine.result_waiting _ (by omega),
          ops', List.dropLast_concat]
      · rw [h.step_startPulse, started, wait']
        rfl
      · rw [alu', wait']
        exact free
      · rw [alu', wait']
        rfl
      · omega
      · intro _
        rw [ops', List.getLast?_concat, e.step_regs_of_starts _ started]
      · intro _
        omega
  | false =>
      have wait' : (e.step i.write?).wait = 0 := by rw [Engine.step_wait, started, hw]; rfl
      have ops' : (e.step i.write?).ops = e.ops := by rw [Engine.step_ops, started]; rfl
      constructor
      · exact h.step_regs i
      · rw [status', h.honours_eq_starts, started, h.status]
        simp [Engine.status, hw, wait', ops']
      · rw [result', h.result, e.result_published hw, Engine.result_published _ wait', ops']
      · rw [h.step_startPulse, started, wait']
        rfl
      · rw [alu', wait']
        exact free
      · rw [alu', wait']
        rfl
      · omega
      · intro _
        omega
      · intro _
        omega

end Step

/-- One edge keeps bank and core in step with the engine. The cases are the four
values of the countdown; only in the last one can a start be honoured. -/
theorem tracks_step {s : BankAlu dataWidth} {e : Engine dataWidth} (h : Tracks s e)
    (i : Input addrWidth dataWidth) : Tracks (s.step i) (e.step i.write?) := by
  have bound := h.bound
  obtain hw | hw | hw | hw : e.wait = 3 ∨ e.wait = 2 ∨ e.wait = 1 ∨ e.wait = 0 := by omega
  · exact h.step_start i hw
  · exact h.step_busy i hw
  · exact h.step_done i hw
  · exact h.step_free i hw

theorem Tracks.rdData {s : BankAlu dataWidth} {e : Engine dataWidth} (h : Tracks s e)
    (addr : BitVec addrWidth) : s.bank.rdData addr = e.read addr := by
  simp only [AxiRegisterBank.rdData, Engine.read, ← h.regs, ← h.status, ← h.result]
  rfl

/-- Bank and core refine the engine over whole runs. -/
theorem tracks_run (inp : Nat → Input addrWidth dataWidth) (t : Nat) :
    Tracks (machine.run inp t) (Engine.machine.run (fun c => (inp c).write?) t) :=
  Machine.run_simulates machine Engine.machine Tracks Input.write? tracks_reset
    (fun _ _ i h => tracks_step h i) inp t

end BankAlu
end AxiAlu
