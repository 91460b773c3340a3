import AxiAlu.Spec.Accelerator

/-!
Programs that access a device over Avalon, and what executing one does. A program
is the tree of its accesses; an execution drives the lines of a device, cycle by
cycle, with any number of idle cycles before each access. A command is held while
the device asks to wait, and a read waits for its response. Waiting is bounded, so
that an execution that would wait forever has no result.
-/
namespace AxiAlu

/-- A program with 32-bit unsigned words, by the access it makes next. -/
inductive Program (addrWidth dataWidth : Nat) (α : Type) where
  | done (value : α)
  | write (addr : BitVec addrWidth) (word : BitVec dataWidth)
      (next : Program addrWidth dataWidth α)
  | read (addr : BitVec addrWidth) (next : BitVec dataWidth → Program addrWidth dataWidth α)

variable {addrWidth dataWidth : Nat} {α β S : Type}

namespace Program

def bind : Program addrWidth dataWidth α → (α → Program addrWidth dataWidth β) →
    Program addrWidth dataWidth β
  | .done value, f => f value
  | .write addr word next, f => .write addr word (next.bind f)
  | .read addr next, f => .read addr (fun word => (next word).bind f)

instance : Monad (Program addrWidth dataWidth) where
  pure := .done
  bind := bind

def writes : List (BitVec addrWidth × BitVec dataWidth) → Program addrWidth dataWidth α →
    Program addrWidth dataWidth α
  | [], next => next
  | (addr, word) :: ws, next => .write addr word (writes ws next)

end Program

/-- A block with an Avalon slave port, as its master sees it. -/
structure Device (addrWidth dataWidth : Nat) (S : Type) where
  step : S → Avalon addrWidth dataWidth → S
  waitrequest : S → Bool
  response : S → Option (BitVec dataWidth)

/-- The lines of the idle cycles before an access, and the lines that the access
itself leaves open. -/
structure Timing (addrWidth dataWidth : Nat) where
  gap : List (Avalon addrWidth dataWidth)
  rest : Avalon addrWidth dataWidth

/-- An access as it happened: a read with the word it brought back. -/
inductive Access (addrWidth dataWidth : Nat) where
  | write (addr : BitVec addrWidth) (word : BitVec dataWidth)
  | read (addr : BitVec addrWidth) (word : BitVec dataWidth)
deriving DecidableEq, Repr

def Avalon.silent (i : Avalon addrWidth dataWidth) : Avalon addrWidth dataWidth :=
  { i with avsRead := false, avsWrite := false }

namespace Device
variable (D : Device addrWidth dataWidth S)

def idle (s : S) (gap : List (Avalon addrWidth dataWidth)) : S :=
  gap.foldl (fun s i => D.step s i.silent) s

/-- Hold the lines of a command up to and including the cycle in which it is accepted. -/
def issue (lines : Avalon addrWidth dataWidth) : Nat → S → Option S
  | 0, _ => none
  | limit + 1, s =>
      if D.waitrequest s then issue lines limit (D.step s lines) else some (D.step s lines)

def await (lines : Avalon addrWidth dataWidth) : Nat → S → Option (BitVec dataWidth × S)
  | 0, _ => none
  | limit + 1, s =>
      match D.response s with
      | some word => some (word, s)
      | none => await lines limit (D.step s lines.silent)

theorem await_none {lines : Avalon addrWidth dataWidth} {limit : Nat} {s : S}
    (h : D.response s = none) :
    D.await lines (limit + 1) s = D.await lines limit (D.step s lines.silent) := by
  rw [await, h]

theorem await_some {lines : Avalon addrWidth dataWidth} {limit : Nat} {s : S}
    {word : BitVec dataWidth} (h : D.response s = some word) :
    D.await lines (limit + 1) s = some (word, s) := by
  rw [await, h]

/-- Idle, and then hold a command; all byte lanes of a write are enabled. -/
def access (limit : Nat) (timing : Timing addrWidth dataWidth)
    (command : Command addrWidth dataWidth) (s : S) : Option S :=
  D.issue (command.lines timing.rest) limit (D.idle s timing.gap)

/-- The `k`-th access of the program is made with `timing k`, and waits for less
than `limit` cycles for each of its events. -/
def execute (limit : Nat) :
    Program addrWidth dataWidth α → (Nat → Timing addrWidth dataWidth) → S →
      Option (α × List (Access addrWidth dataWidth) × S)
  | .done value, _, s => some (value, [], s)
  | .write addr word next, timing, s =>
      (D.access limit (timing 0) (.write { addr := addr, data := word, strb := BitVec.allOnes _ })
          s).bind fun s =>
        (execute limit next (fun k => timing (k + 1)) s).map fun (value, log, s) =>
          (value, .write addr word :: log, s)
  | .read addr next, timing, s =>
      (D.access limit (timing 0) (.read addr) s).bind fun s =>
        (D.await (timing 0).rest limit s).bind fun (word, s) =>
          (execute limit (next word) (fun k => timing (k + 1)) s).map fun (value, log, s) =>
            (value, .read addr word :: log, s)

end Device
end AxiAlu
