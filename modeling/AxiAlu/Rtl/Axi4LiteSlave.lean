import AxiAlu.Clocked.Machine
import Mathlib.Tactic.Common

/-!
The block `axi4lite_slave`: the write channel pairs one buffered address with one
buffered word, the read channel samples the bank one cycle after the address.
Each `if` of the clocked block is one update of the next state `n`; the
conditions and right hand sides read the registers `s` of the cycle.
-/
namespace AxiAlu
open Clocked

structure Axi4LiteSlave (addrWidth dataWidth : Nat) where
  awV : Bool
  wV : Bool
  bvalidQ : Bool
  rvalidQ : Bool
  readPending : Bool
  wrEn : Bool
  wrAddr : BitVec addrWidth
  wrData : BitVec dataWidth
  wrStrb : BitVec (dataWidth / 8)
  awaddrQ : BitVec addrWidth
  araddrQ : BitVec addrWidth
  wdataQ : BitVec dataWidth
  wstrbQ : BitVec (dataWidth / 8)
  rdataQ : BitVec dataWidth
deriving DecidableEq, Repr

namespace Axi4LiteSlave
variable {addrWidth dataWidth : Nat}

structure Input (addrWidth dataWidth : Nat) where
  sAxiAwaddr : BitVec addrWidth
  sAxiAwvalid : Bool
  sAxiWdata : BitVec dataWidth
  sAxiWstrb : BitVec (dataWidth / 8)
  sAxiWvalid : Bool
  sAxiBready : Bool
  sAxiAraddr : BitVec addrWidth
  sAxiArvalid : Bool
  sAxiRready : Bool
  rdData : BitVec dataWidth

def sAxiAwready (s : Axi4LiteSlave addrWidth dataWidth) : Bool := !s.awV
def sAxiWready (s : Axi4LiteSlave addrWidth dataWidth) : Bool := !s.wV
def sAxiBvalid (s : Axi4LiteSlave addrWidth dataWidth) : Bool := s.bvalidQ
def sAxiBresp (_ : Axi4LiteSlave addrWidth dataWidth) : BitVec 2 := 0b00#2
def sAxiArready (s : Axi4LiteSlave addrWidth dataWidth) : Bool :=
  !s.readPending && !s.rvalidQ
def sAxiRvalid (s : Axi4LiteSlave addrWidth dataWidth) : Bool := s.rvalidQ
def sAxiRdata (s : Axi4LiteSlave addrWidth dataWidth) : BitVec dataWidth := s.rdataQ
def sAxiRresp (_ : Axi4LiteSlave addrWidth dataWidth) : BitVec 2 := 0b00#2
def rdAddr (s : Axi4LiteSlave addrWidth dataWidth) : BitVec addrWidth := s.araddrQ

def reset : Axi4LiteSlave addrWidth dataWidth :=
  { awV := false, wV := false, bvalidQ := false, rvalidQ := false, readPending := false
    wrEn := false, wrAddr := 0, wrData := 0, wrStrb := 0, awaddrQ := 0, araddrQ := 0
    wdataQ := 0, wstrbQ := 0, rdataQ := 0 }

def step (s : Axi4LiteSlave addrWidth dataWidth) (i : Input addrWidth dataWidth) :
    Axi4LiteSlave addrWidth dataWidth :=
  let n := { s with wrEn := false }
  let n :=
    if i.sAxiAwvalid && s.sAxiAwready then { n with awaddrQ := i.sAxiAwaddr, awV := true }
    else n
  let n :=
    if i.sAxiWvalid && s.sAxiWready then
      { n with wdataQ := i.sAxiWdata, wstrbQ := i.sAxiWstrb, wV := true }
    else n
  let n :=
    if !s.bvalidQ && s.awV && s.wV then
      { n with
        wrEn := true
        wrAddr := s.awaddrQ
        wrData := s.wdataQ
        wrStrb := s.wstrbQ
        awV := false
        wV := false
        bvalidQ := true }
    else n
  let n := if s.bvalidQ && i.sAxiBready then { n with bvalidQ := false } else n
  let n :=
    if i.sAxiArvalid && s.sAxiArready then
      { n with araddrQ := i.sAxiAraddr, readPending := true }
    else n
  let n :=
    if s.readPending then { n with rdataQ := i.rdData, rvalidQ := true, readPending := false }
    else n
  if s.rvalidQ && i.sAxiRready then { n with rvalidQ := false } else n

def machine : Machine (Axi4LiteSlave addrWidth dataWidth) (Input addrWidth dataWidth) :=
  { reset := reset, step := step }

end Axi4LiteSlave
end AxiAlu
