import Mathlib.Logic.Basic
import Mathlib.Tactic.TypeStar

/-!
A clocked block under a testbench that drives its pins and waits for the edges of its
clock. At a rising edge the testbench goes on before the registers have changed; from
the next delay on it sees them changed. The delays between two edges are short: none
of them reaches the next edge.
-/
namespace Clocked
variable {S P : Type*}

/-- Where the simulation stands. At a rising edge the registers may already have taken
the pins as they were when it came. -/
inductive Moment (P : Type*)
  | low
  | rising (taken : Option P)
  | high

/-- A simulation: the registers of the block, its pins, and what has been checked. -/
structure Bench (S P : Type*) where
  dut : S
  pins : P
  moment : Moment P
  errors : Nat
  display : List String

namespace Bench

def drive (b : Bench S P) (f : P → P) : Bench S P := { b with pins := f b.pins }

/-- Driving pins at the rising edge itself. The simulator may run the block first. -/
def driveAtEdge (b : Bench S P) (blockFirst : Bool) (f : P → P) : Bench S P :=
  match b.moment with
  | .rising taken =>
      { b with
        pins := f b.pins
        moment := .rising (if blockFirst then some (taken.getD b.pins) else taken) }
  | _ => b.drive f

def check (b : Bench S P) (name : String) (ok : Bool) : Bench S P :=
  { b with
    errors := if ok then b.errors else b.errors + 1
    display := b.display ++ [(if ok then "PASS: " else "FAIL: ") ++ name] }

def finish (b : Bench S P) (testName : String) : Bench S P :=
  { b with
    display := b.display ++
      [if b.errors = 0 then testName ++ " PASSED"
        else testName ++ " FAILED with " ++ toString b.errors ++ " errors"] }

section Clock
variable (step : S → P → S)

/-- The registers once the edge that comes, or has come, is over. -/
def settled (b : Bench S P) : S :=
  match b.moment with
  | .low => step b.dut b.pins
  | .rising taken => step b.dut (taken.getD b.pins)
  | .high => b.dut

/-- `@(posedge clk)` -/
def posedge (b : Bench S P) : Bench S P :=
  { b with
    dut := match b.moment with
      | .rising taken => step b.dut (taken.getD b.pins)
      | _ => b.dut
    moment := .rising none }

/-- `@(negedge clk)` -/
def negedge (b : Bench S P) : Bench S P := { b with dut := b.settled step, moment := .low }

/-- `#1` -/
def pause (b : Bench S P) : Bench S P :=
  match b.moment with
  | .rising taken => { b with dut := step b.dut (taken.getD b.pins), moment := .high }
  | _ => b

/-- `repeat (n) @(posedge clk)` -/
def posedges : Nat → Bench S P → Bench S P
  | 0, b => b
  | n + 1, b => posedges n (b.posedge step)

theorem pause_pins (b : Bench S P) : (b.pause step).pins = b.pins := by
  rw [pause]
  split <;> rfl

end Clock

theorem check_errors {b : Bench S P} (name : String) {ok : Bool} (passed : ok = true) :
    (b.check name ok).errors = b.errors :=
  if_pos passed

theorem finish_passed {b : Bench S P} (testName : String) (errors : b.errors = 0) :
    (b.finish testName).display.getLast? = some (testName ++ " PASSED") := by
  rw [finish, if_pos errors, List.getLast?_concat]

end Bench

/-- A process of a `fork`: it waits for a rising edge at which a condition holds, or for
a falling edge at which it drives pins. -/
inductive Thread (S P : Type*)
  | finished
  | posedge (holds : S → Bool) (next : Thread S P)
  | negedge (drives : P → P) (next : Thread S P)

namespace Thread

def isFinished : Thread S P → Bool
  | finished => true
  | _ => false

def posedges : Nat → Thread S P → Thread S P
  | 0, next => next
  | n + 1, next => .posedge (fun _ => true) (posedges n next)

/-- At a rising edge, with the block as it shows itself there. -/
def rise (s : S) : Thread S P → Thread S P
  | .posedge holds next => if holds s then next else .posedge holds next
  | other => other

def fall : Thread S P → Thread S P
  | .negedge _ next => next
  | other => other

def drives : Thread S P → P → P
  | .negedge f _ => f
  | _ => id

end Thread

/-- A `fork` of two processes, and the simulation that they drive. -/
structure Fork (S P : Type*) where
  first : Thread S P
  second : Thread S P
  bench : Bench S P

namespace Fork
variable (step : S → P → S) (view : Bench S P → S)

def edge (f : Fork S P) : Fork S P :=
  match f.bench.moment with
  | .low =>
      let b := f.bench.posedge step
      { first := f.first.rise (view b), second := f.second.rise (view b), bench := b }
  | _ =>
      let b := f.bench.negedge step
      { first := f.first.fall
        second := f.second.fall
        bench := (b.drive f.first.drives).drive f.second.drives }

/-- `join`. Fuel bounds the edges that go by; there is no result if it runs out. -/
def join : Nat → Fork S P → Option (Bench S P)
  | 0, _ => none
  | fuel + 1, f =>
      if f.first.isFinished && f.second.isFinished then some f.bench
      else join fuel (f.edge step view)

end Fork
end Clocked
