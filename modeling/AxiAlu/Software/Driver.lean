import AxiAlu.Rtl.AvalonAxi4LiteAlu
import AxiAlu.Software.Program

/-!
The driver of the peripheral, `alu_run` of the software. A C function that stores
through its two distinct pointers becomes a program that returns the stored words
with the return code. `unsigned int` has 32 bits; the interconnect hands the low
bits of a byte offset to the peripheral as its address.
-/
namespace AxiAlu

/-- The peripheral as its master sees it. -/
def AvalonAxi4LiteAlu.device {addrWidth dataWidth : Nat} :
    Device addrWidth dataWidth (AvalonAxi4LiteAlu addrWidth dataWidth) :=
  { step := step
    waitrequest := avsWaitrequest
    response := fun s => if s.avsReaddatavalid then some s.avsReaddata else none }

namespace Driver

def aluRegCtrl : BitVec 32 := 0x00
def aluRegStatus : BitVec 32 := 0x04
def aluRegA : BitVec 32 := 0x08
def aluRegB : BitVec 32 := 0x0C
def aluRegOpcode : BitVec 32 := 0x10
def aluRegResult : BitVec 32 := 0x14

def aluCtrlStart : BitVec 32 := 0x1

def aluStatusDone : BitVec 32 := 0x2
def aluStatusError : BitVec 32 := 0x4

def aluTimeout : Nat := 1000000

/-- The return code, and the words stored to `*result` and `*status`. -/
structure Outcome where
  rc : Int
  result : BitVec 32
  status : BitVec 32
deriving DecidableEq, Repr

def aluWrite (offset value : BitVec 32) : Program 6 32 Unit :=
  .write (offset.setWidth 6) value (.done ())

def aluRead (offset : BitVec 32) : Program 6 32 (BitVec 32) :=
  .read (offset.setWidth 6) .done

/-- The `do` loop when `timeout` holds `k + 1`, and what follows the loop. -/
def aluPoll (k : Nat) : Program 6 32 Outcome := do
  let status ← aluRead aluRegStatus
  if status &&& aluStatusDone ≠ 0 then
    let result ← aluRead aluRegResult
    return { rc := if status &&& aluStatusError = 0 then 0 else -1, result, status }
  else
    match k with
    | 0 =>
        let result ← aluRead aluRegResult
        let status ← aluRead aluRegStatus
        return { rc := -2, result, status }
    | k + 1 => aluPoll k

def aluRun (a b opcode : BitVec 32) : Program 6 32 Outcome := do
  aluWrite aluRegA a
  aluWrite aluRegB b
  aluWrite aluRegOpcode opcode
  aluWrite aluRegCtrl aluCtrlStart
  aluPoll (aluTimeout - 1)

end Driver
end AxiAlu
