import AxiAlu.Clocked.Machine
import Mathlib.Tactic.Common

/-!
The block `axi_register_bank`: address decode, byte strobes, the start bit of
CTRL and the status word. The read multiplexer is combinational and is kept apart
from the clocked step. The write port is the four signals `wr_en`, `wr_addr`,
`wr_data` and `wr_strb`; the core port is `core_result`, `core_done` and
`core_error`.
-/
namespace AxiAlu
open Clocked

structure AxiRegisterBank (dataWidth : Nat) where
  operandA : BitVec dataWidth
  operandB : BitVec dataWidth
  opcode : BitVec 4
  resultReg : BitVec dataWidth
  statusReg : BitVec 3
  startPulse : Bool
deriving DecidableEq, Repr

namespace AxiRegisterBank
variable {addrWidth dataWidth : Nat}

structure Input (addrWidth dataWidth : Nat) where
  wrEn : Bool
  wrAddr : BitVec addrWidth
  wrData : BitVec dataWidth
  wrStrb : BitVec (dataWidth / 8)
  coreResult : BitVec dataWidth
  coreDone : Bool
  coreError : Bool

def addrCtrl : BitVec addrWidth := BitVec.ofNat addrWidth 0x00
def addrStatus : BitVec addrWidth := BitVec.ofNat addrWidth 0x04
def addrA : BitVec addrWidth := BitVec.ofNat addrWidth 0x08
def addrB : BitVec addrWidth := BitVec.ofNat addrWidth 0x0C
def addrOpcode : BitVec addrWidth := BitVec.ofNat addrWidth 0x10
def addrResult : BitVec addrWidth := BitVec.ofNat addrWidth 0x14

/-- The part select `word[i*8 +: 8]`. -/
def byteLane (word : BitVec dataWidth) (i : Nat) : BitVec 8 := word.extractLsb' (i * 8) 8

/-- The assignment `word[i*8 +: 8] = byte`. -/
def setByteLane (word : BitVec dataWidth) (i : Nat) (byte : BitVec 8) : BitVec dataWidth :=
  (word &&& ~~~((BitVec.allOnes 8).setWidth dataWidth <<< (i * 8))) |||
    (byte.setWidth dataWidth <<< (i * 8))

/-- The loop of `apply_strb` for the indices below `n`. -/
def applyStrbLoop (newData : BitVec dataWidth) (strb : BitVec (dataWidth / 8)) :
    Nat → BitVec dataWidth → BitVec dataWidth
  | 0, merged => merged
  | n + 1, merged =>
      let merged := applyStrbLoop newData strb n merged
      if strb.getLsbD n then setByteLane merged n (byteLane newData n) else merged

def applyStrb (oldData newData : BitVec dataWidth) (strb : BitVec (dataWidth / 8)) :
    BitVec dataWidth :=
  applyStrbLoop newData strb (dataWidth / 8) oldData

def opcodeWord (s : AxiRegisterBank dataWidth) (i : Input addrWidth dataWidth) :
    BitVec dataWidth :=
  applyStrb (s.opcode.setWidth dataWidth) i.wrData i.wrStrb

def reset : AxiRegisterBank dataWidth :=
  { operandA := 0, operandB := 0, opcode := 0, resultReg := 0, statusReg := 0
    startPulse := false }

def step (s : AxiRegisterBank dataWidth) (i : Input addrWidth dataWidth) :
    AxiRegisterBank dataWidth :=
  let n := { s with startPulse := false }
  let n :=
    if i.wrEn then
      if i.wrAddr = addrCtrl then
        if i.wrStrb.getLsbD 0 && i.wrData.getLsbD 0 && !s.statusReg.getLsbD 0 then
          { n with startPulse := true, statusReg := 0b001#3 }
        else n
      else if i.wrAddr = addrA then
        { n with operandA := applyStrb s.operandA i.wrData i.wrStrb }
      else if i.wrAddr = addrB then
        { n with operandB := applyStrb s.operandB i.wrData i.wrStrb }
      else if i.wrAddr = addrOpcode then
        { n with opcode := (opcodeWord s i).setWidth 4 }
      else n
    else n
  -- The completion is assigned last, so it would win over a start of the same cycle.
  if i.coreDone then
    { n with
      resultReg := i.coreResult
      statusReg := BitVec.ofBool i.coreError ++ 0b10#2 }
  else n

def rdData (s : AxiRegisterBank dataWidth) (rdAddr : BitVec addrWidth) : BitVec dataWidth :=
  if rdAddr = addrCtrl then 0
  else if rdAddr = addrStatus then s.statusReg.setWidth dataWidth
  else if rdAddr = addrA then s.operandA
  else if rdAddr = addrB then s.operandB
  else if rdAddr = addrOpcode then s.opcode.setWidth dataWidth
  else if rdAddr = addrResult then s.resultReg
  else 0

def machine : Machine (AxiRegisterBank dataWidth) (Input addrWidth dataWidth) :=
  { reset := reset, step := step }

end AxiRegisterBank
end AxiAlu
