import AxiAlu.Rtl.AvalonAxi4LiteAlu

/-!
The block `avalon_axi4lite_alu` without its bridge: `u_axi_slave`, `u_bank` and `u_alu`,
wired as they are there, with the AXI4-Lite side of the slave left open.
-/
namespace AxiAlu
open Clocked

structure SlaveBankAlu (addrWidth dataWidth : Nat) where
  slave : Axi4LiteSlave addrWidth dataWidth
  bank : AxiRegisterBank dataWidth
  alu : AluCore dataWidth
deriving DecidableEq, Repr

namespace SlaveBankAlu
variable {addrWidth dataWidth : Nat}

structure Input (addrWidth dataWidth : Nat) where
  sAxiAwaddr : BitVec addrWidth
  sAxiAwvalid : Bool
  sAxiWdata : BitVec dataWidth
  sAxiWstrb : BitVec (dataWidth / 8)
  sAxiWvalid : Bool
  sAxiBready : Bool
  sAxiAraddr : BitVec addrWidth
  sAxiArvalid : Bool
  sAxiRready : Bool

def slaveInput (s : SlaveBankAlu addrWidth dataWidth) (i : Input addrWidth dataWidth) :
    Axi4LiteSlave.Input addrWidth dataWidth :=
  { sAxiAwaddr := i.sAxiAwaddr
    sAxiAwvalid := i.sAxiAwvalid
    sAxiWdata := i.sAxiWdata
    sAxiWstrb := i.sAxiWstrb
    sAxiWvalid := i.sAxiWvalid
    sAxiBready := i.sAxiBready
    sAxiAraddr := i.sAxiAraddr
    sAxiArvalid := i.sAxiArvalid
    sAxiRready := i.sAxiRready
    rdData := s.bank.rdData s.slave.rdAddr }

/-- The bank and core of the block, and the write port that drives them. -/
def bankAlu (s : SlaveBankAlu addrWidth dataWidth) : BankAlu dataWidth :=
  { bank := s.bank, alu := s.alu }

def writePort (s : SlaveBankAlu addrWidth dataWidth) : BankAlu.Input addrWidth dataWidth :=
  { wrEn := s.slave.wrEn
    wrAddr := s.slave.wrAddr
    wrData := s.slave.wrData
    wrStrb := s.slave.wrStrb }

def reset : SlaveBankAlu addrWidth dataWidth :=
  { slave := Axi4LiteSlave.reset, bank := AxiRegisterBank.reset, alu := AluCore.reset }

def step (s : SlaveBankAlu addrWidth dataWidth) (i : Input addrWidth dataWidth) :
    SlaveBankAlu addrWidth dataWidth :=
  { slave := s.slave.step (s.slaveInput i)
    bank := s.bank.step (s.bankAlu.bankInput s.writePort)
    alu := s.alu.step s.bankAlu.aluInput }

def machine : Machine (SlaveBankAlu addrWidth dataWidth) (Input addrWidth dataWidth) :=
  { reset := reset, step := step }

end SlaveBankAlu
end AxiAlu
