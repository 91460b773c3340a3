import AxiAlu.Clocked.Machine
import Mathlib.Tactic.Common

/-!
The block `alu_core`. Registers are the fields of a structure, the branch taken
under `!rst_n` is `reset`, and `step` is the other branch of `always_ff`: right
hand sides and conditions read the registers of the cycle, and of two
nonblocking assignments to one register the later one stands. Widths are the
parameters of the block; signals are two-valued.
-/
namespace AxiAlu
open Clocked

structure AluCore (dataWidth : Nat) where
  result : BitVec dataWidth
  busy : Bool
  done : Bool
  error : Bool
deriving DecidableEq, Repr

namespace AluCore
variable {dataWidth opcodeWidth : Nat}

structure Input (dataWidth opcodeWidth : Nat) where
  start : Bool
  operandA : BitVec dataWidth
  operandB : BitVec dataWidth
  opcode : BitVec opcodeWidth

def opAdd : BitVec opcodeWidth := BitVec.ofNat opcodeWidth 0
def opSub : BitVec opcodeWidth := BitVec.ofNat opcodeWidth 1
def opMul : BitVec opcodeWidth := BitVec.ofNat opcodeWidth 2
def opDiv : BitVec opcodeWidth := BitVec.ofNat opcodeWidth 3

/-- The two local variables of `divide_unsigned`; the remainder has one bit more
than the operands. -/
structure Division (dataWidth : Nat) where
  quotient : BitVec dataWidth
  remainder : BitVec (dataWidth + 1)

/-- The assignment `remainder = {remainder[DATA_WIDTH-1:0], numerator[i]}`. -/
def shiftIn (remainder : BitVec (dataWidth + 1)) (bit : Bool) : BitVec (dataWidth + 1) :=
  (remainder.setWidth dataWidth).concat bit

/-- One pass of the loop body, for the index `i`. -/
def divideStep (numerator denominator : BitVec dataWidth) (i : Nat)
    (v : Division dataWidth) : Division dataWidth :=
  let remainder := shiftIn v.remainder (numerator.getLsbD i)
  if denominator.setWidth (dataWidth + 1) ≤ remainder then
    { quotient := v.quotient ||| BitVec.twoPow dataWidth i
      remainder := remainder - denominator.setWidth (dataWidth + 1) }
  else { v with remainder := remainder }

/-- The passes for the indices below `i`, from `i - 1` down to `0`. -/
def divideLoop (numerator denominator : BitVec dataWidth) :
    Nat → Division dataWidth → Division dataWidth
  | 0, v => v
  | i + 1, v => divideLoop numerator denominator i (divideStep numerator denominator i v)

def divideUnsigned (numerator denominator : BitVec dataWidth) : BitVec dataWidth :=
  (divideLoop numerator denominator dataWidth { quotient := 0, remainder := 0 }).quotient

/-- The `always_comb` block: `result_next` and `error_next`. -/
def next (opcode : BitVec opcodeWidth) (operandA operandB : BitVec dataWidth) :
    BitVec dataWidth × Bool :=
  if opcode = opAdd then (operandA + operandB, false)
  else if opcode = opSub then (operandA - operandB, false)
  else if opcode = opMul then (operandA * operandB, false)
  else if opcode = opDiv then
    if operandB = 0 then (0, true) else (divideUnsigned operandA operandB, false)
  else (0, true)

def resultNext (opcode : BitVec opcodeWidth) (operandA operandB : BitVec dataWidth) :
    BitVec dataWidth :=
  (next opcode operandA operandB).1

def errorNext (opcode : BitVec opcodeWidth) (operandA operandB : BitVec dataWidth) : Bool :=
  (next opcode operandA operandB).2

def reset : AluCore dataWidth :=
  { result := 0, busy := false, done := false, error := false }

def step (s : AluCore dataWidth) (i : Input dataWidth opcodeWidth) : AluCore dataWidth :=
  let n := { s with done := false }
  if i.start && !s.busy then
    { n with
      busy := true
      result := resultNext i.opcode i.operandA i.operandB
      error := errorNext i.opcode i.operandA i.operandB }
  else if s.busy then { n with busy := false, done := true }
  else n

def machine : Machine (AluCore dataWidth) (Input dataWidth opcodeWidth) :=
  { reset := reset, step := step }

end AluCore
end AxiAlu
