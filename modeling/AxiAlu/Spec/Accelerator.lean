import AxiAlu.Spec.Registers
import AxiAlu.Rtl.AvalonAxi4LiteBridge

/-!
The peripheral as an abstract machine with two parts. The engine holds the
registers, the outcome of every operation it has been asked for, and how many
cycles the last one still needs. The accelerator puts one Avalon command at a
time in front of it; a command passes through three phases and a read samples the
engine in its second one.
-/
namespace AxiAlu
open Clocked AxiRegisterBank
variable {addrWidth dataWidth : Nat}

/-- `ops` are the outcomes of the operations started, oldest first. While `wait`
is positive the last of them is still to be published. -/
structure Engine (dataWidth : Nat) where
  regs : Registers dataWidth
  ops : List (BitVec dataWidth × Bool)
  wait : Nat

namespace Engine

def reset : Engine dataWidth := { regs := .zero, ops := [], wait := 0 }

/-- A start is honoured only when nothing is waiting; it changes no register. -/
def step (e : Engine dataWidth) (w? : Option (Write addrWidth dataWidth)) : Engine dataWidth :=
  match w? with
  | none => { e with wait := e.wait - 1 }
  | some w =>
      if w.isStart && e.wait == 0 then { e with ops := e.ops ++ [e.regs.outcome], wait := 3 }
      else { e with regs := e.regs.write w, wait := e.wait - 1 }

def status (e : Engine dataWidth) : BitVec 3 :=
  if e.wait = 0 then
    match e.ops.getLast? with
    | none => 0b000#3
    | some op => BitVec.ofBool op.2 ++ 0b10#2
  else 0b001#3

def result (e : Engine dataWidth) : BitVec dataWidth :=
  if e.wait = 0 then published e.ops else published e.ops.dropLast

def read (e : Engine dataWidth) (addr : BitVec addrWidth) : BitVec dataWidth :=
  if addr = addrCtrl then 0
  else if addr = addrStatus then e.status.setWidth dataWidth
  else if addr = addrA then e.regs.a
  else if addr = addrB then e.regs.b
  else if addr = addrOpcode then e.regs.opcode.setWidth dataWidth
  else if addr = addrResult then e.result
  else 0

def machine : Machine (Engine dataWidth) (Option (Write addrWidth dataWidth)) :=
  { reset := reset, step := step }

end Engine

inductive Command (addrWidth dataWidth : Nat) where
  | write (w : Write addrWidth dataWidth)
  | read (addr : BitVec addrWidth)
deriving DecidableEq, Repr

namespace Command

def write? : Command addrWidth dataWidth → Option (Write addrWidth dataWidth)
  | .write w => some w
  | .read _ => none

def read? : Command addrWidth dataWidth → Option (BitVec addrWidth)
  | .write _ => none
  | .read addr => some addr

/-- The lines of a master that issues a command; a read leaves the data lines as
they are. -/
def lines (i : Avalon addrWidth dataWidth) :
    Command addrWidth dataWidth → Avalon addrWidth dataWidth
  | .write w =>
      { avsAddress := w.addr, avsRead := false, avsWrite := true, avsWritedata := w.data
        avsByteenable := w.strb }
  | .read addr => { i with avsAddress := addr, avsRead := true, avsWrite := false }

end Command

/-- The lines of a master that issues no command. -/
def Avalon.quiet : Avalon addrWidth dataWidth :=
  { avsAddress := 0, avsRead := false, avsWrite := false, avsWritedata := 0, avsByteenable := 0 }

/-- The command that the Avalon inputs carry; a write when both strobes are up. -/
def Avalon.command (i : Avalon addrWidth dataWidth) : Option (Command addrWidth dataWidth) :=
  if i.avsWrite then
    some (.write { addr := i.avsAddress, data := i.avsWritedata, strb := i.avsByteenable })
  else if i.avsRead then some (.read i.avsAddress)
  else none

/-- Where the command in progress stands. -/
inductive Phase (addrWidth dataWidth : Nat) where
  | idle
  | posted (w : Write addrWidth dataWidth)
  | buffered (w : Write addrWidth dataWidth)
  | pulsing (w : Write addrWidth dataWidth)
  | asked (addr : BitVec addrWidth)
  | sampling (addr : BitVec addrWidth)
  | returning (data : BitVec dataWidth)
deriving DecidableEq, Repr

namespace Phase

def accept : Option (Command addrWidth dataWidth) → Phase addrWidth dataWidth
  | none => .idle
  | some (.write w) => .posted w
  | some (.read addr) => .asked addr

def next (p : Phase addrWidth dataWidth) (command : Option (Command addrWidth dataWidth))
    (read : BitVec addrWidth → BitVec dataWidth) : Phase addrWidth dataWidth :=
  match p with
  | .idle => accept command
  | .posted w => .buffered w
  | .buffered w => .pulsing w
  | .pulsing _ => .idle
  | .asked addr => .sampling addr
  | .sampling addr => .returning (read addr)
  | .returning _ => .idle

def write? : Phase addrWidth dataWidth → Option (Write addrWidth dataWidth)
  | .pulsing w => some w
  | _ => none

def data? : Phase addrWidth dataWidth → Option (BitVec dataWidth)
  | .returning data => some data
  | _ => none

end Phase

structure Accelerator (addrWidth dataWidth : Nat) where
  phase : Phase addrWidth dataWidth
  engine : Engine dataWidth
  response : Option (BitVec dataWidth)

namespace Accelerator

def reset : Accelerator addrWidth dataWidth :=
  { phase := .idle, engine := .reset, response := none }

def step (x : Accelerator addrWidth dataWidth) (i : Avalon addrWidth dataWidth) :
    Accelerator addrWidth dataWidth :=
  { phase := x.phase.next i.command x.engine.read
    engine := x.engine.step x.phase.write?
    response := x.phase.data? }

def machine : Machine (Accelerator addrWidth dataWidth) (Avalon addrWidth dataWidth) :=
  { reset := reset, step := step }

end Accelerator
end AxiAlu
