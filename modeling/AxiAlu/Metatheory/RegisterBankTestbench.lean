import AxiAlu.Testbench.RegisterBank
import AxiAlu.Metatheory.BankHistory

/-!
The testbench of the register bank finds no error, whatever its random numbers are.
Between two tasks the block is quiet; a task then amounts to one step of the bank, and
the reference model of the random tests follows it.
-/
namespace AxiAlu.TbAxiRegisterBank
open Clocked AxiRegisterBank Testbench

theorem applyStrbModel_eq (oldData newData : BitVec 32) (strb : BitVec 4) :
    applyStrbModel oldData newData strb = applyStrb oldData newData strb := by
  have loop : ∀ n merged,
      applyStrbModelLoop newData strb n merged = applyStrbLoop newData strb n merged := by
    intro n merged
    induction n with
    | zero => rfl
    | succ n ih => rw [applyStrbModelLoop, applyStrbLoop, ih]
  exact loop 4 oldData

def writing (w : Write 6 32) : AxiRegisterBank.Input 6 32 :=
  { quiet with wrEn := true, wrAddr := w.addr, wrData := w.data, wrStrb := w.strb }

def completing (result : BitVec 32) (error : Bool) : AxiRegisterBank.Input 6 32 :=
  { quiet with coreResult := result, coreDone := true, coreError := error }

/-- A quiet cycle ends the start pulse, which no step reads. -/
theorem step_after_quiet (s : AxiRegisterBank 32) (i : AxiRegisterBank.Input 6 32) :
    (s.step quiet).step i = s.step i := rfl

/-- The reset is over, and nothing is asked of the block. -/
structure Ready (b : Sim) : Prop where
  released : b.pins.rstN = true
  port : b.pins.port = quiet
  untaken : ∀ p, b.moment ≠ .rising (some p)

theorem Ready.edge {b : Sim} (ready : Ready b) : step b.dut b.pins = b.dut.step quiet := by
  rw [step, if_pos ready.released, ready.port]

theorem Ready.settled_step {b : Sim} (ready : Ready b) (i : AxiRegisterBank.Input 6 32) :
    (b.settled step).step i = b.dut.step i := by
  rw [Bench.settled]
  split
  next => rw [ready.edge, step_after_quiet]
  next taken rising =>
      cases taken with
      | some p => exact absurd rising (ready.untaken p)
      | none => rw [Option.getD_none, ready.edge, step_after_quiet]
  next => rfl

/-- A task that drives the port for one cycle is one step of the bank. -/
theorem Ready.cycle {b : Sim} (ready : Ready b) (i : AxiRegisterBank.Input 6 32) :
    (((b.negedge step).drive fun p => { p with port := i }).negedge step).drive
        (fun p => { p with port := quiet }) =
      { b with dut := b.dut.step i, moment := .low } := by
  have pins : { b.pins with port := quiet } = b.pins := by rw [← ready.port]
  have released : step (b.settled step) { b.pins with port := i } = (b.settled step).step i :=
    if_pos ready.released
  rw [← ready.settled_step]
  simp only [Bench.negedge, Bench.drive, Bench.settled, pins]
  rw [← Bench.settled, released]

theorem Ready.busWrite_eq {b : Sim} (ready : Ready b) (addr : BitVec 6) (data : BitVec 32)
    (strb : BitVec 4) :
    busWrite addr data strb b =
      { b with
        dut := b.dut.step (writing { addr := addr, data := data, strb := strb })
        moment := .low } := by
  rw [← ready.cycle]
  simp only [busWrite, Bench.negedge, Bench.drive, ready.port]
  rfl

theorem Ready.completeCore_eq {b : Sim} (ready : Ready b) (result : BitVec 32) (error : Bool) :
    completeCore result error b =
      { b with dut := b.dut.step (completing result error), moment := .low } := by
  rw [← ready.cycle]
  simp only [completeCore, Bench.negedge, Bench.drive, ready.port]
  rfl

theorem Ready.dut_eq {b : Sim} (ready : Ready b) : dut b = b.dut := if_pos ready.released

theorem Ready.of_pins {b b' : Sim} (ready : Ready b) (pins : b'.pins = b.pins)
    (untaken : ∀ p, b'.moment ≠ .rising (some p)) : Ready b' :=
  { released := by rw [pins, ready.released], port := by rw [pins, ready.port]
    untaken := untaken }

theorem Ready.posedge {b : Sim} (ready : Ready b) : Ready (b.posedge step) :=
  ready.of_pins rfl fun p rising => by cases rising

theorem Ready.check {b : Sim} (ready : Ready b) (name : String) (ok : Bool) :
    Ready (b.check name ok) :=
  ready.of_pins rfl ready.untaken

theorem low_busWrite (addr : BitVec 6) (data : BitVec 32) (strb : BitVec 4) (b : Sim) :
    (busWrite addr data strb b).moment = .low := rfl

theorem low_readCheck {b : Sim} (low : b.moment = .low) (addr : BitVec 6) (word : BitVec 32)
    (name : String) : (readCheck addr word name b).moment = .low := by
  rw [readCheck, Bench.pause]
  simp only [Bench.drive, low, Bench.check]

/-- The operand registers that the random tests expect. -/
def Expected.regs (exp : Expected) : Registers 32 :=
  { a := exp.a, b := exp.b, opcode := exp.opcode }

/-- No check has failed, and the registers of the block hold what is given. -/
structure Stands (b : Sim) (regs : Registers 32) (status : BitVec 3) (result : BitVec 32) :
    Prop where
  ready : Ready b
  errors : b.errors = 0
  regs : b.dut.regs = regs
  status : b.dut.statusReg = status
  result : b.dut.resultReg = result

/-- The registers of the block, but for the start pulse. -/
def standing (regs : Registers 32) (status : BitVec 3) (result : BitVec 32) :
    AxiRegisterBank 32 :=
  { operandA := regs.a, operandB := regs.b, opcode := regs.opcode, resultReg := result
    statusReg := status, startPulse := false }

namespace Stands
variable {b : Sim} {regs : Registers 32} {status : BitVec 3} {result : BitVec 32}
variable (stands : Stands b regs status result)
include stands

theorem of_dut {b' : Sim} (ready : Ready b') (errors : b'.errors = b.errors)
    (dut : b'.dut = b.dut) : Stands b' regs status result :=
  { ready := ready, errors := errors.trans stands.errors, regs := by rw [dut, stands.regs]
    status := by rw [dut, stands.status], result := by rw [dut, stands.result] }

/-- A write that is no start, or comes while the block is busy. -/
theorem busWrite {w : Write 6 32} (refused : (w.isStart && !status.getLsbD 0) = false) :
    Stands (busWrite w.addr w.data w.strb b) (regs.write w) status result ∧
      (TbAxiRegisterBank.busWrite w.addr w.data w.strb b).dut.startPulse = false := by
  have silent : b.dut.honours (writing w) = false := by
    rw [← refused, ← stands.status]
    rfl
  rw [stands.ready.busWrite_eq]
  refine ⟨{ ready := ?_, errors := stands.errors, regs := ?_, status := ?_, result := ?_ }, ?_⟩
  · exact stands.ready.of_pins rfl fun p low => by cases low
  · rw [← stands.regs]
    exact step_regs _ _
  · rw [← stands.status]
    exact (step_statusReg _ _).trans (by rw [silent]; rfl)
  · rw [← stands.result]
    exact step_resultReg _ _
  · rw [← silent]
    exact step_startPulse _ _

theorem start {w : Write 6 32} (start : w.isStart = true) (idle : status.getLsbD 0 = false) :
    Stands (TbAxiRegisterBank.busWrite w.addr w.data w.strb b) regs 0b001#3 result ∧
      (TbAxiRegisterBank.busWrite w.addr w.data w.strb b).dut.startPulse = true := by
  have honoured : b.dut.honours (writing w) = true := by
    change (w.isStart && !b.dut.statusReg.getLsbD 0) = true
    rw [start, stands.status, idle]
    rfl
  rw [stands.ready.busWrite_eq]
  refine ⟨{ ready := ?_, errors := stands.errors, regs := ?_, status := ?_, result := ?_ }, ?_⟩
  · exact stands.ready.of_pins rfl fun p low => by cases low
  · rw [← stands.regs]
    exact (step_regs _ _).trans (Registers.write_start _ start)
  · exact (step_statusReg _ _).trans (by rw [honoured]; rfl)
  · rw [← stands.result]
    exact step_resultReg _ _
  · rw [← honoured]
    exact step_startPulse _ _

theorem completeCore (word : BitVec 32) (error : Bool) :
    Stands (completeCore word error b) regs (BitVec.ofBool error ++ 0b10#2) word := by
  rw [stands.ready.completeCore_eq]
  refine { ready := ?_, errors := stands.errors, regs := ?_, status := ?_, result := ?_ }
  · exact stands.ready.of_pins rfl fun p low => by cases low
  · rw [← stands.regs]
    exact step_regs _ _
  · exact step_statusReg _ _
  · exact step_resultReg _ _

theorem pause : Stands (b.pause step) regs status result := by
  rw [Bench.pause]
  split
  next taken rising =>
      cases taken with
      | some p => exact absurd rising (stands.ready.untaken p)
      | none =>
          rw [Option.getD_none, stands.ready.edge]
          exact
            { ready := stands.ready.of_pins rfl fun p high => by cases high
              errors := stands.errors, regs := stands.regs, status := stands.status
              result := stands.result }
  next => exact stands

theorem rdData_eq (addr : BitVec 6) :
    b.dut.rdData addr = (standing regs status result).rdData addr := by
  obtain ⟨_, _, rfl, rfl, rfl⟩ := stands
  rfl

theorem readCheck (addr : BitVec 6) (word : BitVec 32) (name : String)
    (shows : (standing regs status result).rdData addr = word) :
    Stands (TbAxiRegisterBank.readCheck addr word name b) regs status result := by
  have driven : Stands (b.drive fun p => { p with rdAddr := addr }) regs status result :=
    { ready :=
        { released := stands.ready.released, port := stands.ready.port
          untaken := stands.ready.untaken }
      errors := stands.errors, regs := stands.regs, status := stands.status
      result := stands.result }
  have paused := driven.pause
  have address : ((b.drive fun p => { p with rdAddr := addr }).pause step).pins.rdAddr = addr := by
    rw [Bench.pause_pins]
    rfl
  have passed : decide ((dut ((b.drive fun p => { p with rdAddr := addr }).pause step)).rdData
      ((b.drive fun p => { p with rdAddr := addr }).pause step).pins.rdAddr = word) = true := by
    rw [address, paused.ready.dut_eq, paused.rdData_eq, shows, decide_eq_true rfl]
  exact paused.of_dut (paused.ready.check _ _) (Bench.check_errors _ passed) rfl

/-- The start pulse is looked at from a rising edge, before the registers change. -/
theorem checkStartPulse (low : b.moment = .low) {pulse : Bool}
    (now : b.dut.startPulse = pulse) (name : String) :
    Stands (TbAxiRegisterBank.checkStartPulse name pulse b) regs status result := by
  have same : (b.posedge step).dut = b.dut := by rw [Bench.posedge, low]
  have passed : ((dut (b.posedge step)).startPulse == pulse) = true := by
    rw [stands.ready.posedge.dut_eq, same, now, beq_self_eq_true]
  refine stands.of_dut (stands.ready.posedge.check _ _) (Bench.check_errors _ passed) ?_
  exact same

theorem checkStartPulse_again (rising : b.moment = .rising none) (name : String) :
    Stands (TbAxiRegisterBank.checkStartPulse name false b) regs status result := by
  have stepped : (b.posedge step).dut = b.dut.step quiet := by
    rw [Bench.posedge, rising]
    exact stands.ready.edge
  have passed : ((dut (b.posedge step)).startPulse == false) = true := by
    rw [stands.ready.posedge.dut_eq, stepped]
    rfl
  have after : Stands (b.posedge step) regs status result :=
    { ready := stands.ready.posedge, errors := stands.errors
      regs := by rw [stepped, ← stands.regs]; rfl
      status := by rw [stepped, ← stands.status]; rfl
      result := by rw [stepped, ← stands.result]; rfl }
  exact after.of_dut (after.ready.check _ _) (Bench.check_errors _ passed) rfl

end Stands

/-- The block is as the random tests expect it, with no operation in progress. -/
structure Agrees (b : Sim) (exp : Expected) : Prop
    extends Stands b exp.regs exp.status exp.result where
  low : b.moment = .low
  idle : exp.status.getLsbD 0 = false

theorem Agrees.busWrite {b : Sim} {exp exp' : Expected} (agrees : Agrees b exp)
    {addr : BitVec 6} {data : BitVec 32} {strb : BitVec 4} (elsewhere : addr ≠ addrCtrl)
    (regs : exp.regs.write { addr := addr, data := data, strb := strb } = exp'.regs)
    (status : exp'.status = exp.status) (result : exp'.result = exp.result) :
    Agrees (TbAxiRegisterBank.busWrite addr data strb b) exp' := by
  have refused : (Write.isStart { addr := addr, data := data, strb := strb } &&
      !exp.status.getLsbD 0) = false := by
    simp [Write.isStart, elsewhere]
  have written := (agrees.toStands.busWrite refused).1
  rw [regs, ← status, ← result] at written
  refine { toStands := written, low := ?_, idle := ?_ }
  · rw [agrees.ready.busWrite_eq]
  · rw [status, agrees.idle]

theorem rdData_status (s : AxiRegisterBank 32) :
    s.rdData (addrStatus : BitVec 6) = s.statusReg.setWidth 32 := by
  simp [rdData, addrStatus, addrCtrl]

section Shows
variable (exp : Expected)

def Expected.shows (addr : BitVec 6) : BitVec 32 :=
  (standing exp.regs exp.status exp.result).rdData addr

theorem shows_a : exp.shows addrA = exp.a := rdData_a legalWidths_default _

theorem shows_b : exp.shows addrB = exp.b := rdData_b legalWidths_default _

theorem shows_opcode : exp.shows addrOpcode = exp.opcode.setWidth 32 :=
  rdData_opcode legalWidths_default _

theorem shows_status : exp.shows addrStatus = exp.status.setWidth 32 := rdData_status _

theorem shows_result : exp.shows addrResult = exp.result := rdData_result legalWidths_default _

end Shows

theorem Agrees.readCheck {b : Sim} {exp : Expected} (agrees : Agrees b exp) {addr : BitVec 6}
    {word : BitVec 32} (name : String) (shows : exp.shows addr = word) :
    Agrees (TbAxiRegisterBank.readCheck addr word name b) exp :=
  { toStands := agrees.toStands.readCheck addr word name shows
    low := low_readCheck agrees.low addr word name
    idle := agrees.idle }

/-- The second start finds the block busy. -/
theorem Agrees.randomStart {b : Sim} {exp : Expected} (agrees : Agrees b exp)
    (data : BitVec 32) (strb : BitVec 4) :
    Stands (randomStart data strb b) exp.regs 0b001#3 exp.result := by
  let first : Write 6 32 := { addr := addrCtrl, data := data ||| 1, strb := strb ||| 0b0001 }
  let second : Write 6 32 := { addr := addrCtrl, data := 1, strb := 0b1111 }
  have isStart : first.isStart = true := by simp [first, Write.isStart]
  have busy : (second.isStart && !(0b001#3).getLsbD 0) = false := by simp
  obtain ⟨started, pulse⟩ := agrees.toStands.start isStart agrees.idle
  have started := started.checkStartPulse (low_busWrite _ _ _ _) pulse "random start when idle"
  obtain ⟨refused, silent⟩ := started.busWrite busy
  exact refused.checkStartPulse (low_busWrite _ _ _ _) silent _

theorem doneStatus_idle (error : Bool) : (doneStatus error).getLsbD 0 = false := by
  cases error <;> decide

theorem Stands.randomCompletion {b : Sim} {exp : Expected} {status : BitVec 3}
    {result : BitVec 32} (stands : Stands b exp.regs status result) (word : BitVec 32)
    (error : Bool) :
    Agrees (randomCompletion word error b)
      { exp with result := word, status := doneStatus error } := by
  have value : BitVec.ofBool error ++ 0b10#2 = doneStatus error := by cases error <;> rfl
  have completed : Agrees (TbAxiRegisterBank.completeCore word error b)
      { exp with result := word, status := doneStatus error } :=
    { toStands := value ▸ stands.completeCore word error
      low := by rw [stands.ready.completeCore_eq]
      idle := doneStatus_idle error }
  have first := completed.readCheck "random completion status" (shows_status _)
  exact first.readCheck _ (shows_result _)

theorem invalidAddress_unmapped (random : BitVec 32) :
    invalidAddress random ∉ [addrCtrl, addrStatus, addrA, addrB, addrOpcode, addrResult] := by
  rw [invalidAddress]
  split
  next => decide
  next unmapped => exact unmapped

/-- The block is as the random tests expect it when they go on to the next iteration. -/
def Progress.Sound (r : Progress) : Prop := Agrees r.sim r.exp

section Iterations
variable {r : Progress} (data : BitVec 32) (strb : BitVec 4)

theorem randomOperandA_sound (agrees : Agrees r.sim r.exp) :
    (randomOperandA data strb r).Sound := by
  have written : Agrees (busWrite addrA data strb r.sim) (randomOperandA data strb r).exp :=
    agrees.busWrite (by decide)
      (by simp [randomOperandA, Expected.regs, Registers.write, applyStrbModel_eq,
        applyStrb_eq_mergeLanes, addrA, addrCtrl])
      rfl rfl
  exact written.readCheck _ (shows_a _)

theorem randomOperandB_sound (agrees : Agrees r.sim r.exp) :
    (randomOperandB data strb r).Sound := by
  have written : Agrees (busWrite addrB data strb r.sim) (randomOperandB data strb r).exp :=
    agrees.busWrite (by decide)
      (by simp [randomOperandB, Expected.regs, Registers.write, applyStrbModel_eq,
        applyStrb_eq_mergeLanes, addrA, addrB, addrCtrl])
      rfl rfl
  exact written.readCheck _ (shows_b _)

variable (r) in
theorem randomOpcode_exp : (randomOpcode data strb r).exp =
    { r.exp with opcode := if strb.getLsbD 0 then data.setWidth 4 else r.exp.opcode } := by
  rw [randomOpcode]
  cases strb.getLsbD 0 <;> rfl

/-- The reference model takes the low nibble, the bank merges it from a word. -/
theorem randomOpcode_sound (agrees : Agrees r.sim r.exp) :
    (randomOpcode data strb r).Sound := by
  have nibble := randomOpcode_exp r data strb
  have written : Agrees (busWrite addrOpcode data strb r.sim) (randomOpcode data strb r).exp := by
    refine agrees.busWrite (by decide) ?_ (by rw [nibble]) (by rw [nibble])
    rw [nibble]
    simp [Expected.regs, Registers.write, nibble_mergeLanes, addrA, addrB, addrOpcode, addrCtrl,
      BitVec.setWidth_setWidth_of_le]
  exact written.readCheck _ (shows_opcode _)

theorem randomOperation_sound (agrees : Agrees r.sim r.exp) :
    (randomOperation data strb r).Sound := by
  have completed := (agrees.randomStart data strb).randomCompletion (rand32 r.seed)
    ((rand32 (rand32 r.seed) &&& 1).getLsbD 0)
  rw [randomOperation]
  exact completed

theorem randomStatusWrite_sound (agrees : Agrees r.sim r.exp) :
    (randomStatusWrite data strb r).Sound := by
  have written : Agrees (busWrite addrStatus data strb r.sim) r.exp :=
    agrees.busWrite (by decide)
      (write_elsewhere _ (show addrStatus ∉ [addrA, addrB, addrOpcode] by decide)) rfl rfl
  exact written.readCheck _ (shows_status _)

theorem randomResultWrite_sound (agrees : Agrees r.sim r.exp) :
    (randomResultWrite data strb r).Sound := by
  have written : Agrees (busWrite addrResult data strb r.sim) r.exp :=
    agrees.busWrite (by decide)
      (write_elsewhere _ (show addrResult ∉ [addrA, addrB, addrOpcode] by decide)) rfl rfl
  exact written.readCheck _ (shows_result _)

theorem randomInvalid_sound (agrees : Agrees r.sim r.exp) :
    (randomInvalid data strb r).Sound := by
  have unmapped := invalidAddress_unmapped (rand32 r.seed)
  simp only [List.mem_cons, List.not_mem_nil, or_false, not_or] at unmapped
  obtain ⟨ctrl, status, a, b, opcode, result⟩ := unmapped
  have written : Agrees (busWrite (invalidAddress (rand32 r.seed)) data strb r.sim) r.exp :=
    agrees.busWrite ctrl (write_elsewhere _ (by simp [a, b, opcode])) rfl rfl
  have zero : r.exp.shows (invalidAddress (rand32 r.seed)) = 0 :=
    rdData_unmapped _ (by simp [status, a, b, opcode, result])
  have first := written.readCheck "random invalid address reads zero" zero
  have second := first.readCheck "random invalid write leaves operand A" (shows_a _)
  have third := second.readCheck "random invalid write leaves operand B" (shows_b _)
  rw [randomInvalid]
  dsimp only [Progress.Sound]
  exact third

theorem randomCase_sound (choice : Nat) (sound : r.Sound) :
    (randomCase choice data strb r).Sound := by
  match choice with
  | 0 | 1 => exact randomOperandA_sound data strb sound
  | 2 | 3 => exact randomOperandB_sound data strb sound
  | 4 => exact randomOpcode_sound data strb sound
  | 5 => exact randomOperation_sound data strb sound
  | 6 => exact randomStatusWrite_sound data strb sound
  | 7 => exact randomResultWrite_sound data strb sound
  | _ + 8 => exact randomInvalid_sound data strb sound

end Iterations

theorem Progress.Sound.withSeed {r : Progress} (sound : r.Sound) (seed : BitVec 32) :
    Progress.Sound { r with seed := seed } := by
  rw [Progress.Sound] at sound ⊢
  exact sound

theorem randomTest_sound {r : Progress} (sound : r.Sound) : (randomTest r).Sound := by
  rw [randomTest]
  exact randomCase_sound _ _ _ (sound.withSeed _)

theorem randomTests_sound (iterations : Nat) {r : Progress} (sound : r.Sound) :
    (randomTest^[iterations] r).Sound := by
  induction iterations with
  | zero => exact sound
  | succ iterations ih =>
      rw [Function.iterate_succ_apply']
      exact randomTest_sound ih

theorem Stands.put {b : Sim} {regs regs' : Registers 32} {status : BitVec 3} {result : BitVec 32}
    (stands : Stands b regs status result) (w : Write 6 32) (addr : BitVec 6) (word : BitVec 32)
    (name : String) (refused : (w.isStart && !status.getLsbD 0) = false)
    (written : regs.write w = regs')
    (shows : (standing regs' status result).rdData addr = word) :
    Stands (TbAxiRegisterBank.readCheck addr word name
      (TbAxiRegisterBank.busWrite w.addr w.data w.strb b)) regs' status result := by
  have put := (stands.busWrite refused).1
  rw [written] at put
  exact put.readCheck addr word name shows

section Main
variable (blockFirst : Bool) {b : Sim}

/-- Whichever goes first when the reset is taken away, it leaves the block in its reset
state and ready, and drops whatever it held. -/
theorem resetDut_eq :
    resetDut blockFirst b =
      { dut := AxiRegisterBank.reset
        pins := { rstN := true, port := quiet, rdAddr := 0 }
        moment := .rising none
        errors := b.errors
        display := b.display } := by
  cases blockFirst <;> rfl

def directedRegs : Registers 32 := { a := 0x11AA3355, b := 0xCAFEBABE, opcode := 3 }

theorem directedRegisters_stands (errors : b.errors = 0) :
    Stands (directedRegisters (resetDut blockFirst b)) directedRegs 0 0 := by
  rw [resetDut_eq]
  have reset : Stands
      { dut := AxiRegisterBank.reset
        pins := { rstN := true, port := quiet, rdAddr := 0 }
        moment := .rising none
        errors := b.errors
        display := b.display } Registers.zero 0 0 :=
    { ready := { released := rfl, port := rfl, untaken := fun p rising => by cases rising }
      errors := errors, regs := rfl, status := rfl, result := rfl }
  have checked := reset.of_dut
    (reset.ready.check "reset operand/status/start" true) (Bench.check_errors _ rfl) rfl
  have status := checked.readCheck addrStatus 0x0 "reset status read" (by decide)
  have result := status.readCheck addrResult 0x0 "reset result read" (by decide)
  have a : Stands _ { a := 0x11223344, b := 0, opcode := 0 } 0 0 :=
    result.put { addr := addrA, data := 0x11223344, strb := 0b1111 } addrA 0x11223344
      "write/read operand A" (by decide) (by decide) (by decide)
  have lanes : Stands _ { a := 0x11AA3355, b := 0, opcode := 0 } 0 0 :=
    a.put { addr := addrA, data := 0xAAAA5555, strb := 0b0101 } addrA 0x11AA3355
      "byte-enable partial operand A" (by decide) (by decide) (by decide)
  have b : Stands _ { a := 0x11AA3355, b := 0xCAFEBABE, opcode := 0 } 0 0 :=
    lanes.put { addr := addrB, data := 0xCAFEBABE, strb := 0b1111 } addrB 0xCAFEBABE
      "write/read operand B" (by decide) (by decide) (by decide)
  have nibble : Stands _ directedRegs 0 0 :=
    b.put { addr := addrOpcode, data := 0xFFFFFF03, strb := 0b1111 } addrOpcode 0x3
      "opcode keeps low nibble" (by decide) (by decide) (by decide)
  exact nibble.put { addr := addrOpcode, data := 0x0000000A, strb := 0b1110 } addrOpcode 0x3
    "opcode unchanged when byte 0 strobe is clear" (by decide) (by decide) (by decide)

theorem directedOperations_agrees (stands : Stands b directedRegs 0 0) :
    Agrees (directedOperations b)
      { a := 0x11AA3355, b := 0xCAFEBABE, result := 0, opcode := 3, status := 0b110 } := by
  let ctrl (data : BitVec 32) : Write 6 32 := { addr := addrCtrl, data := data, strb := 0b1111 }
  obtain ⟨started, pulse⟩ := stands.start (w := ctrl 1) (by decide) (by decide)
  have pulsed := started.checkStartPulse (low_busWrite _ _ _ _) pulse
    "start pulse asserted for one cycle"
  have ended := pulsed.checkStartPulse_again rfl "start pulse clears"
  have busy := ended.readCheck addrStatus 0x1 "status busy after start" (by decide)
  obtain ⟨refused, silent⟩ := busy.busWrite (w := ctrl 1) (by decide)
  have ignored := refused.checkStartPulse (low_busWrite _ _ _ _) silent "start ignored while busy"
  have completed := ignored.completeCore 0xDEADBEEF false
  have done := completed.readCheck addrStatus 0x2 "status done without error" (by decide)
  have latched := done.readCheck addrResult 0xDEADBEEF "result latched on done" (by decide)
  obtain ⟨cleared, none⟩ := latched.busWrite (w := ctrl 0) (by decide)
  have unstarted := cleared.checkStartPulse (low_busWrite _ _ _ _) none "ctrl zero does not start"
  obtain ⟨restarted, pulse⟩ := unstarted.start (w := ctrl 1) (by decide) (by decide)
  have pulsed := restarted.checkStartPulse (low_busWrite _ _ _ _) pulse
    "start after done accepted"
  have failed := pulsed.completeCore 0x0 true
  have error := failed.readCheck addrStatus 0x6 "status done with error" (by decide)
  have zero := error.readCheck addrResult 0x0 "error result latched" (by decide)
  have unmapped : Stands _ directedRegs _ _ :=
    zero.put { addr := addrBad, data := 0xFFFFFFFF, strb := 0b1111 } addrBad 0x0
      "invalid read returns zero" (by decide) (by decide) (by decide)
  exact
    { toStands :=
        unmapped.readCheck addrA 0x11AA3355 "invalid write does not corrupt A" (by decide)
      low := low_readCheck (low_readCheck (low_busWrite _ _ _ _) _ _ _) _ _ _
      idle := rfl }

/-- The random tests start with what the block shows then, and the last completion. -/
theorem Agrees.start {exp : Expected} (agrees : Agrees b exp) (result : exp.result = 0)
    (status : exp.status = 0b110) (seed : BitVec 32) :
    Progress.Sound
      { sim := b
        exp :=
          { a := (dut b).operandA, b := (dut b).operandB, opcode := (dut b).opcode
            result := 0, status := 0b110 }
        seed := seed } := by
  rw [agrees.ready.dut_eq]
  exact
    { ready := agrees.ready, errors := agrees.errors, regs := rfl
      status := agrees.status.trans status, result := agrees.result.trans result
      low := agrees.low, idle := status ▸ agrees.idle }

theorem Agrees.randomRegisterTests {exp : Expected} (agrees : Agrees b exp)
    (result : exp.result = 0) (status : exp.status = 0b110) (iterations : Nat)
    (seed : BitVec 32) : (randomRegisterTests iterations seed b).errors = 0 := by
  rw [TbAxiRegisterBank.randomRegisterTests]
  exact (randomTests_sound iterations (agrees.start result status seed)).errors

variable (b) in
/-- The testbench passes for every seed and every number of random tests, whatever the
block holds at power-up and in whichever order the simulator runs the two. -/
theorem register_bank_testbench_passes (iterations : Nat) (seed : BitVec 32) :
    (main blockFirst iterations seed b).errors = 0 ∧
      (main blockFirst iterations seed b).display.getLast? =
        some "tb_axi_register_bank PASSED" := by
  have directed := directedOperations_agrees
    (directedRegisters_stands (b := { b with errors := 0 }) blockFirst rfl)
  have random := directed.randomRegisterTests rfl rfl iterations seed
  rw [main]
  exact ⟨random, Bench.finish_passed _ random⟩

end Main

end AxiAlu.TbAxiRegisterBank
