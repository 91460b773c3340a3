import AxiAlu.Clocked.Bench
import AxiAlu.Testbench.Random
import Mathlib.Logic.Function.Iterate

/-!
The testbench `tb_axi_register_bank`: its tasks, its directed tests and its random
tests with the reference model they keep.
-/
namespace AxiAlu.TbAxiRegisterBank
open Clocked AxiRegisterBank Testbench

structure Pins where
  rstN : Bool
  port : AxiRegisterBank.Input 6 32
  rdAddr : BitVec 6

abbrev Sim := Bench (AxiRegisterBank 32) Pins

def step (s : AxiRegisterBank 32) (p : Pins) : AxiRegisterBank 32 :=
  if p.rstN then s.step p.port else reset

/-- The block as its outputs show it; its reset is asynchronous. -/
def dut (b : Sim) : AxiRegisterBank 32 := if b.pins.rstN then b.dut else reset

def addrBad : BitVec 6 := 0x3C

/-- `apply_strb_model`, the loop for the indices below `n`. -/
def applyStrbModelLoop (newData : BitVec 32) (strb : BitVec 4) : Nat → BitVec 32 → BitVec 32
  | 0, merged => merged
  | n + 1, merged =>
      let merged := applyStrbModelLoop newData strb n merged
      if strb.getLsbD n then setByteLane merged n (byteLane newData n) else merged

def applyStrbModel (oldData newData : BitVec 32) (strb : BitVec 4) : BitVec 32 :=
  applyStrbModelLoop newData strb 4 oldData

def quiet : AxiRegisterBank.Input 6 32 :=
  { wrEn := false, wrAddr := 0, wrData := 0, wrStrb := 0
    coreResult := 0, coreDone := false, coreError := false }

def resetDut (blockFirst : Bool) (b : Sim) : Sim :=
  let b := b.drive fun _ => { rstN := false, port := quiet, rdAddr := 0 }
  let b := b.posedges step 3
  let b := b.driveAtEdge blockFirst fun p => { p with rstN := true }
  b.posedge step

def busWrite (addr : BitVec 6) (data : BitVec 32) (strb : BitVec 4) (b : Sim) : Sim :=
  let b := b.negedge step
  let b := b.drive fun p =>
    { p with port := { p.port with wrAddr := addr, wrData := data, wrStrb := strb, wrEn := true } }
  let b := b.negedge step
  b.drive fun p =>
    { p with port := { p.port with wrEn := false, wrAddr := 0, wrData := 0, wrStrb := 0 } }

def readCheck (addr : BitVec 6) (exp : BitVec 32) (name : String) (b : Sim) : Sim :=
  let b := b.drive fun p => { p with rdAddr := addr }
  let b := b.pause step
  b.check name (decide ((dut b).rdData b.pins.rdAddr = exp))

/-- The start pulse, looked at from the next rising edge. -/
def checkStartPulse (name : String) (exp : Bool) (b : Sim) : Sim :=
  let b := b.posedge step
  b.check name ((dut b).startPulse == exp)

def completeCore (result : BitVec 32) (error : Bool) (b : Sim) : Sim :=
  let b := b.negedge step
  let b := b.drive fun p =>
    { p with port := { p.port with coreResult := result, coreError := error, coreDone := true } }
  let b := b.negedge step
  b.drive fun p =>
    { p with port := { p.port with coreDone := false, coreResult := 0, coreError := false } }

/-- The variables of `random_register_tests` that outlive an iteration. -/
structure Expected where
  a : BitVec 32
  b : BitVec 32
  result : BitVec 32
  opcode : BitVec 4
  status : BitVec 3

/-- Where the random tests stand: the simulation, what they expect, and the seed. -/
structure Progress where
  sim : Sim
  exp : Expected
  seed : BitVec 32

def randomOperandA (data : BitVec 32) (strb : BitVec 4) (r : Progress) : Progress :=
  let b := busWrite addrA data strb r.sim
  let exp := { r.exp with a := applyStrbModel r.exp.a data strb }
  { r with sim := readCheck addrA exp.a "random operand A byte lanes" b, exp := exp }

def randomOperandB (data : BitVec 32) (strb : BitVec 4) (r : Progress) : Progress :=
  let b := busWrite addrB data strb r.sim
  let exp := { r.exp with b := applyStrbModel r.exp.b data strb }
  { r with sim := readCheck addrB exp.b "random operand B byte lanes" b, exp := exp }

def randomOpcode (data : BitVec 32) (strb : BitVec 4) (r : Progress) : Progress :=
  let b := busWrite addrOpcode data strb r.sim
  let exp := if strb.getLsbD 0 then { r.exp with opcode := data.setWidth 4 } else r.exp
  { r with
    sim := readCheck addrOpcode (exp.opcode.setWidth 32) "random opcode low nibble" b
    exp := exp }

/-- A start, and a second one while the first is in progress. -/
def randomStart (data : BitVec 32) (strb : BitVec 4) (b : Sim) : Sim :=
  let b := busWrite addrCtrl (data ||| 1) (strb ||| 0b0001) b
  let b := checkStartPulse "random start when idle" true b
  let b := busWrite addrCtrl 1 0b1111 b
  checkStartPulse "random busy rejects restart" false b

def doneStatus (doneError : Bool) : BitVec 3 := if doneError then 0b110 else 0b010

def randomCompletion (expResult : BitVec 32) (doneError : Bool) (b : Sim) : Sim :=
  let b := completeCore expResult doneError b
  let b :=
    readCheck addrStatus ((doneStatus doneError).setWidth 32) "random completion status" b
  readCheck addrResult expResult "random completion result" b

def randomOperation (data : BitVec 32) (strb : BitVec 4) (r : Progress) : Progress :=
  let b := randomStart data strb r.sim
  let expResult := rand32 r.seed
  let seed := rand32 expResult
  let doneError := (seed &&& 1).getLsbD 0
  { sim := randomCompletion expResult doneError b
    exp := { r.exp with result := expResult, status := doneStatus doneError }
    seed := seed }

def randomStatusWrite (data : BitVec 32) (strb : BitVec 4) (r : Progress) : Progress :=
  let b := busWrite addrStatus data strb r.sim
  { r with
    sim := readCheck addrStatus (r.exp.status.setWidth 32) "random status write ignored" b }

def randomResultWrite (data : BitVec 32) (strb : BitVec 4) (r : Progress) : Progress :=
  let b := busWrite addrResult data strb r.sim
  { r with sim := readCheck addrResult r.exp.result "random result write ignored" b }

/-- An address that no register has, from a random number. -/
def invalidAddress (random : BitVec 32) : BitVec 6 :=
  let addr := (random.setWidth 6 ^^^ addrBad) &&& 0x3F
  if addr ∈ [addrCtrl, addrStatus, addrA, addrB, addrOpcode, addrResult] then addrBad else addr

def randomInvalid (data : BitVec 32) (strb : BitVec 4) (r : Progress) : Progress :=
  let seed := rand32 r.seed
  let addr := invalidAddress seed
  let b := busWrite addr data strb r.sim
  let b := readCheck addr 0 "random invalid address reads zero" b
  let b := readCheck addrA r.exp.a "random invalid write leaves operand A" b
  let b := readCheck addrB r.exp.b "random invalid write leaves operand B" b
  { r with sim := b, seed := seed }

/-- The `case` of `random_register_tests`. -/
def randomCase (choice : Nat) (data : BitVec 32) (strb : BitVec 4) (r : Progress) : Progress :=
  match choice with
  | 0 | 1 => randomOperandA data strb r
  | 2 | 3 => randomOperandB data strb r
  | 4 => randomOpcode data strb r
  | 5 => randomOperation data strb r
  | 6 => randomStatusWrite data strb r
  | 7 => randomResultWrite data strb r
  | _ => randomInvalid data strb r

/-- One iteration of `random_register_tests`. -/
def randomTest (r : Progress) : Progress :=
  let seed := rand32 r.seed
  let word := randomWord seed
  randomCase (seed.toNat % 9) word.data word.strb { r with seed := word.seed }

def randomRegisterTests (iterations : Nat) (seed : BitVec 32) (b : Sim) : Sim :=
  (randomTest^[iterations]
    { sim := b
      exp :=
        { a := (dut b).operandA, b := (dut b).operandB, opcode := (dut b).opcode
          result := 0, status := 0b110 }
      seed := seed }).sim

/-- The directed tests of the initial block, up to the first start. -/
def directedRegisters (b : Sim) : Sim :=
  let b := b.check "reset operand/status/start"
    (decide ((dut b).operandA = 0) && decide ((dut b).operandB = 0) &&
      decide ((dut b).opcode = 0) && !(dut b).startPulse)
  let b := readCheck addrStatus 0x0 "reset status read" b
  let b := readCheck addrResult 0x0 "reset result read" b
  let b := busWrite addrA 0x11223344 0b1111 b
  let b := readCheck addrA 0x11223344 "write/read operand A" b
  let b := busWrite addrA 0xAAAA5555 0b0101 b
  let b := readCheck addrA 0x11AA3355 "byte-enable partial operand A" b
  let b := busWrite addrB 0xCAFEBABE 0b1111 b
  let b := readCheck addrB 0xCAFEBABE "write/read operand B" b
  let b := busWrite addrOpcode 0xFFFFFF03 0b1111 b
  let b := readCheck addrOpcode 0x3 "opcode keeps low nibble" b
  let b := busWrite addrOpcode 0x0000000A 0b1110 b
  readCheck addrOpcode 0x3 "opcode unchanged when byte 0 strobe is clear" b

/-- The directed tests from the first start on. The two completions are written out there,
with the assignments of `complete_core` that change a pin. -/
def directedOperations (b : Sim) : Sim :=
  let b := busWrite addrCtrl 0x1 0b1111 b
  let b := checkStartPulse "start pulse asserted for one cycle" true b
  let b := checkStartPulse "start pulse clears" false b
  let b := readCheck addrStatus 0x1 "status busy after start" b
  let b := busWrite addrCtrl 0x1 0b1111 b
  let b := checkStartPulse "start ignored while busy" false b
  let b := completeCore 0xDEADBEEF false b
  let b := readCheck addrStatus 0x2 "status done without error" b
  let b := readCheck addrResult 0xDEADBEEF "result latched on done" b
  let b := busWrite addrCtrl 0x0 0b1111 b
  let b := checkStartPulse "ctrl zero does not start" false b
  let b := busWrite addrCtrl 0x1 0b1111 b
  let b := checkStartPulse "start after done accepted" true b
  let b := completeCore 0x0 true b
  let b := readCheck addrStatus 0x6 "status done with error" b
  let b := readCheck addrResult 0x0 "error result latched" b
  let b := busWrite addrBad 0xFFFFFFFF 0b1111 b
  let b := readCheck addrBad 0x0 "invalid read returns zero" b
  readCheck addrA 0x11AA3355 "invalid write does not corrupt A" b

def main (blockFirst : Bool) (iterations : Nat) (seed : BitVec 32) (b : Sim) : Sim :=
  let b := resetDut blockFirst { b with errors := 0 }
  let b := directedRegisters b
  let b := directedOperations b
  let b := randomRegisterTests iterations seed b
  b.finish "tb_axi_register_bank"

end AxiAlu.TbAxiRegisterBank
