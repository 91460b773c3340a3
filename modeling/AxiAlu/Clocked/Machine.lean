import Mathlib.Logic.Basic
import Mathlib.Tactic.TypeStar

/-!
Synchronous machines driven by unbounded input streams. A cycle is numbered by
its position in the stream; the state of cycle `t` is the one reached from reset
after the inputs of the cycles before `t`. The rules below are the only ways a
run is reasoned about: an invariant of every step, a part of a composed machine
that is itself a machine, and a simulation by another machine.
-/
namespace Clocked

/-- A clocked block between two resets: its state after reset and its next state. -/
structure Machine (S I : Type*) where
  reset : S
  step : S → I → S

namespace Machine
variable {S I S' I' : Type*}

def run (M : Machine S I) (inp : Nat → I) : Nat → S
  | 0 => M.reset
  | t + 1 => M.step (run M inp t) (inp t)

theorem run_succ (M : Machine S I) (inp : Nat → I) (t : Nat) :
    M.run inp (t + 1) = M.step (M.run inp t) (inp t) := rfl

/-- What reset establishes and every step preserves holds in every cycle. -/
theorem run_invariant (M : Machine S I) (P : S → Prop) (base : P M.reset)
    (preserved : ∀ s i, P s → P (M.step s i)) (inp : Nat → I) (t : Nat) :
    P (M.run inp t) := by
  induction t with
  | zero => exact base
  | succ t ih => exact preserved _ _ ih

/-- A part of a composed machine runs as its own machine, on the inputs that the
rest of the composition feeds it. -/
theorem run_component (M : Machine S I) (N : Machine S' I') (part : S → S')
    (feed : S → I → I') (base : part M.reset = N.reset)
    (local_step : ∀ s i, part (M.step s i) = N.step (part s) (feed s i))
    (inp : Nat → I) (t : Nat) :
    part (M.run inp t) = N.run (fun c => feed (M.run inp c) (inp c)) t := by
  induction t with
  | zero => exact base
  | succ t ih => rw [run_succ, run_succ, local_step, ih]

/-- Forward simulation: a relation kept by matching steps holds in every cycle. -/
theorem run_simulates (M : Machine S I) (N : Machine S' I') (Rel : S → S' → Prop)
    (translate : I → I') (base : Rel M.reset N.reset)
    (matching : ∀ s s' i, Rel s s' → Rel (M.step s i) (N.step s' (translate i)))
    (inp : Nat → I) (t : Nat) :
    Rel (M.run inp t) (N.run (fun c => translate (inp c)) t) := by
  induction t with
  | zero => exact base
  | succ t ih => exact matching _ _ _ ih

end Machine
end Clocked
