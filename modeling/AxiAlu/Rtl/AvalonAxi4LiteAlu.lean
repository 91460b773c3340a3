import AxiAlu.Rtl.AluCore
import AxiAlu.Rtl.AxiRegisterBank
import AxiAlu.Rtl.Axi4LiteSlave
import AxiAlu.Rtl.AvalonAxi4LiteBridge

/-!
The block `avalon_axi4lite_alu`, which is only wiring, and the two parts of it
that are also used alone: the bank with its core, and the slave with its bank.
Every wire between the blocks is a function of the registers of the cycle, so the
composed step feeds each block from the others' present states.
-/
namespace AxiAlu
open Clocked

/-- `u_bank` and `u_alu`, joined by the operand, start, result and done wires. -/
structure BankAlu (dataWidth : Nat) where
  bank : AxiRegisterBank dataWidth
  alu : AluCore dataWidth
deriving DecidableEq, Repr

namespace BankAlu
variable {addrWidth dataWidth : Nat}

/-- The write port of the bank, the only input of this part that is clocked in. -/
structure Input (addrWidth dataWidth : Nat) where
  wrEn : Bool
  wrAddr : BitVec addrWidth
  wrData : BitVec dataWidth
  wrStrb : BitVec (dataWidth / 8)

def bankInput (s : BankAlu dataWidth) (i : Input addrWidth dataWidth) :
    AxiRegisterBank.Input addrWidth dataWidth :=
  { wrEn := i.wrEn
    wrAddr := i.wrAddr
    wrData := i.wrData
    wrStrb := i.wrStrb
    coreResult := s.alu.result
    coreDone := s.alu.done
    coreError := s.alu.error }

def aluInput (s : BankAlu dataWidth) : AluCore.Input dataWidth 4 :=
  { start := s.bank.startPulse
    operandA := s.bank.operandA
    operandB := s.bank.operandB
    opcode := s.bank.opcode }

def reset : BankAlu dataWidth := { bank := AxiRegisterBank.reset, alu := AluCore.reset }

def step (s : BankAlu dataWidth) (i : Input addrWidth dataWidth) : BankAlu dataWidth :=
  { bank := s.bank.step (s.bankInput i), alu := s.alu.step s.aluInput }

def machine : Machine (BankAlu dataWidth) (Input addrWidth dataWidth) :=
  { reset := reset, step := step }

end BankAlu

/-- `u_axi_slave` and `u_bank`, joined by the write port and the read port. -/
structure SlaveBank (addrWidth dataWidth : Nat) where
  slave : Axi4LiteSlave addrWidth dataWidth
  bank : AxiRegisterBank dataWidth
deriving DecidableEq, Repr

namespace SlaveBank
variable {addrWidth dataWidth : Nat}

/-- What an AXI4-Lite master and an arbitrary core drive. -/
structure Input (addrWidth dataWidth : Nat) where
  sAxiAwaddr : BitVec addrWidth
  sAxiAwvalid : Bool
  sAxiWdata : BitVec dataWidth
  sAxiWstrb : BitVec (dataWidth / 8)
  sAxiWvalid : Bool
  sAxiBready : Bool
  sAxiAraddr : BitVec addrWidth
  sAxiArvalid : Bool
  sAxiRready : Bool
  coreResult : BitVec dataWidth
  coreDone : Bool
  coreError : Bool

def slaveInput (s : SlaveBank addrWidth dataWidth) (i : Input addrWidth dataWidth) :
    Axi4LiteSlave.Input addrWidth dataWidth :=
  { sAxiAwaddr := i.sAxiAwaddr
    sAxiAwvalid := i.sAxiAwvalid
    sAxiWdata := i.sAxiWdata
    sAxiWstrb := i.sAxiWstrb
    sAxiWvalid := i.sAxiWvalid
    sAxiBready := i.sAxiBready
    sAxiAraddr := i.sAxiAraddr
    sAxiArvalid := i.sAxiArvalid
    sAxiRready := i.sAxiRready
    rdData := s.bank.rdData s.slave.rdAddr }

def bankInput (s : SlaveBank addrWidth dataWidth) (i : Input addrWidth dataWidth) :
    AxiRegisterBank.Input addrWidth dataWidth :=
  { wrEn := s.slave.wrEn
    wrAddr := s.slave.wrAddr
    wrData := s.slave.wrData
    wrStrb := s.slave.wrStrb
    coreResult := i.coreResult
    coreDone := i.coreDone
    coreError := i.coreError }

def reset : SlaveBank addrWidth dataWidth :=
  { slave := Axi4LiteSlave.reset, bank := AxiRegisterBank.reset }

def step (s : SlaveBank addrWidth dataWidth) (i : Input addrWidth dataWidth) :
    SlaveBank addrWidth dataWidth :=
  { slave := s.slave.step (s.slaveInput i), bank := s.bank.step (s.bankInput i) }

def machine : Machine (SlaveBank addrWidth dataWidth) (Input addrWidth dataWidth) :=
  { reset := reset, step := step }

end SlaveBank

structure AvalonAxi4LiteAlu (addrWidth dataWidth : Nat) where
  bridge : AvalonAxi4LiteBridge addrWidth dataWidth
  slave : Axi4LiteSlave addrWidth dataWidth
  bank : AxiRegisterBank dataWidth
  alu : AluCore dataWidth
deriving DecidableEq, Repr

namespace AvalonAxi4LiteAlu
variable {addrWidth dataWidth : Nat}

def avsReaddata (s : AvalonAxi4LiteAlu addrWidth dataWidth) : BitVec dataWidth :=
  s.bridge.avsReaddata
def avsWaitrequest (s : AvalonAxi4LiteAlu addrWidth dataWidth) : Bool :=
  s.bridge.avsWaitrequest
def avsReaddatavalid (s : AvalonAxi4LiteAlu addrWidth dataWidth) : Bool :=
  s.bridge.avsReaddatavalid

def bridgeInput (s : AvalonAxi4LiteAlu addrWidth dataWidth) (i : Avalon addrWidth dataWidth) :
    AvalonAxi4LiteBridge.Input addrWidth dataWidth :=
  { avs := i
    mAxiAwready := s.slave.sAxiAwready
    mAxiWready := s.slave.sAxiWready
    mAxiBresp := s.slave.sAxiBresp
    mAxiBvalid := s.slave.sAxiBvalid
    mAxiArready := s.slave.sAxiArready
    mAxiRdata := s.slave.sAxiRdata
    mAxiRresp := s.slave.sAxiRresp
    mAxiRvalid := s.slave.sAxiRvalid }

def slaveInput (s : AvalonAxi4LiteAlu addrWidth dataWidth) :
    Axi4LiteSlave.Input addrWidth dataWidth :=
  { sAxiAwaddr := s.bridge.mAxiAwaddr
    sAxiAwvalid := s.bridge.mAxiAwvalid
    sAxiWdata := s.bridge.mAxiWdata
    sAxiWstrb := s.bridge.mAxiWstrb
    sAxiWvalid := s.bridge.mAxiWvalid
    sAxiBready := s.bridge.mAxiBready
    sAxiAraddr := s.bridge.mAxiAraddr
    sAxiArvalid := s.bridge.mAxiArvalid
    sAxiRready := s.bridge.mAxiRready
    rdData := s.bank.rdData s.slave.rdAddr }

/-- The bank and core inside the peripheral, and the write port that drives them. -/
def bankAlu (s : AvalonAxi4LiteAlu addrWidth dataWidth) : BankAlu dataWidth :=
  { bank := s.bank, alu := s.alu }

def writePort (s : AvalonAxi4LiteAlu addrWidth dataWidth) : BankAlu.Input addrWidth dataWidth :=
  { wrEn := s.slave.wrEn
    wrAddr := s.slave.wrAddr
    wrData := s.slave.wrData
    wrStrb := s.slave.wrStrb }

def reset : AvalonAxi4LiteAlu addrWidth dataWidth :=
  { bridge := AvalonAxi4LiteBridge.reset, slave := Axi4LiteSlave.reset
    bank := AxiRegisterBank.reset, alu := AluCore.reset }

def step (s : AvalonAxi4LiteAlu addrWidth dataWidth) (i : Avalon addrWidth dataWidth) :
    AvalonAxi4LiteAlu addrWidth dataWidth :=
  { bridge := s.bridge.step (s.bridgeInput i)
    slave := s.slave.step s.slaveInput
    bank := s.bank.step (s.bankAlu.bankInput s.writePort)
    alu := s.alu.step s.bankAlu.aluInput }

def machine : Machine (AvalonAxi4LiteAlu addrWidth dataWidth) (Avalon addrWidth dataWidth) :=
  { reset := reset, step := step }

end AvalonAxi4LiteAlu
end AxiAlu
