import AxiAlu.Clocked.History
import AxiAlu.Spec.Accelerator

/-!
The abstract engine by itself: what one step does to each of its parts, and what
a run of steps makes of a stream of writes. A start that is presented while
nothing waits occupies the engine for the next three cycles and no longer.
-/
namespace AxiAlu
open Clocked
variable {addrWidth dataWidth : Nat}

namespace Engine

def starts (e : Engine dataWidth) (w? : Option (Write addrWidth dataWidth)) : Bool :=
  w?.any Write.isStart && e.wait == 0

theorem step_regs (e : Engine dataWidth) (w? : Option (Write addrWidth dataWidth)) :
    (e.step w?).regs = w?.elim e.regs e.regs.write := by
  cases w? with
  | none => rfl
  | some w =>
      simp only [step, Option.elim_some]
      split
      · rename_i h
        rw [Registers.write_start]
        exact (Bool.and_eq_true_iff.mp h).1
      · rfl

theorem step_ops (e : Engine dataWidth) (w? : Option (Write addrWidth dataWidth)) :
    (e.step w?).ops = if e.starts w? then e.ops ++ [e.regs.outcome] else e.ops := by
  cases w? with
  | none => rfl
  | some w => by_cases h : (w.isStart && e.wait == 0) = true <;> simp [step, starts, h]

theorem step_wait (e : Engine dataWidth) (w? : Option (Write addrWidth dataWidth)) :
    (e.step w?).wait = if e.starts w? then 3 else e.wait - 1 := by
  cases w? with
  | none => rfl
  | some w => by_cases h : (w.isStart && e.wait == 0) = true <;> simp [step, starts, h]

theorem starts_of_waiting (e : Engine dataWidth) (w? : Option (Write addrWidth dataWidth))
    (h : e.wait ≠ 0) : e.starts w? = false := by
  simp [starts, h]

/-- An operation in progress only counts down; a start does not disturb it. -/
theorem step_of_waiting (e : Engine dataWidth) (w? : Option (Write addrWidth dataWidth))
    (h : e.wait ≠ 0) : (e.step w?).wait = e.wait - 1 ∧ (e.step w?).ops = e.ops := by
  have idle := e.starts_of_waiting w? h
  rw [step_wait, step_ops, idle]
  exact ⟨rfl, rfl⟩

/-- A started operation leaves the registers that its outcome was taken from. -/
theorem step_regs_of_starts (e : Engine dataWidth) (w? : Option (Write addrWidth dataWidth))
    (h : e.starts w? = true) : (e.step w?).regs = e.regs := by
  cases w? with
  | none => rfl
  | some w =>
      simp only [starts, Option.any_some, Bool.and_eq_true] at h
      rw [step_regs, Option.elim_some, Registers.write_start _ h.1]

theorem status_waiting (e : Engine dataWidth) (h : e.wait ≠ 0) : e.status = 0b001#3 :=
  if_neg h

theorem status_never (e : Engine dataWidth) (h : e.wait = 0) (none : e.ops = []) :
    e.status = 0b000#3 := by
  simp [status, h, none]

theorem status_published (e : Engine dataWidth) (h : e.wait = 0)
    {op : BitVec dataWidth × Bool} (last : e.ops.getLast? = some op) :
    e.status = BitVec.ofBool op.2 ++ 0b10#2 := by
  simp only [status, h, if_true, last]

theorem result_waiting (e : Engine dataWidth) (h : e.wait ≠ 0) :
    e.result = published e.ops.dropLast :=
  if_neg h

theorem result_published (e : Engine dataWidth) (h : e.wait = 0) :
    e.result = published e.ops :=
  if_pos h

theorem status_busy (e : Engine dataWidth) : e.status.getLsbD 0 = !(e.wait == 0) := by
  by_cases h : e.wait = 0
  · cases ho : e.ops.getLast? with
    | none => simp [status, h, ho]
    | some op => cases he : op.2 <;> simp [status, h, ho, he]
  · simp [status, h]

theorem wait_le (ws : Nat → Option (Write addrWidth dataWidth)) (t : Nat) :
    (machine.run ws t : Engine dataWidth).wait ≤ 3 := by
  apply Machine.run_invariant machine (fun e => e.wait ≤ 3)
  · exact Nat.zero_le 3
  · intro e w? h
    change (e.step w?).wait ≤ 3
    rw [step_wait]
    split <;> omega

section Runs
variable (ws : Nat → Option (Write addrWidth dataWidth))

def runAt (t : Nat) : Engine dataWidth := machine.run ws t

def startsAt (c : Nat) : Bool := (runAt ws c).starts (ws c)

def outcomeAt (c : Nat) : Option (BitVec dataWidth × Bool) :=
  if startsAt ws c then some (runAt ws c).regs.outcome else none

theorem at_succ (t : Nat) : runAt ws (t + 1) = (runAt ws t).step (ws t) := rfl

theorem wait_succ (t : Nat) :
    (runAt ws (t + 1)).wait = if startsAt ws t then 3 else (runAt ws t).wait - 1 := by
  rw [at_succ, step_wait]; rfl

theorem startsAt_of_waiting {c : Nat} (h : (runAt ws c).wait ≠ 0) : startsAt ws c = false :=
  starts_of_waiting _ _ h

theorem wait_zero_of_startsAt {c : Nat} (h : startsAt ws c = true) : (runAt ws c).wait = 0 := by
  by_contra hw
  rw [startsAt_of_waiting ws hw] at h
  cases h

theorem wait_after_start {v : Nat} (h : startsAt ws v = true) {k : Nat} (hk : k ≤ 3) :
    (runAt ws (v + 1 + k)).wait = 3 - k := by
  induction k with
  | zero => rw [Nat.add_zero, wait_succ, if_pos h]
  | succ k ih =>
      have waiting := ih (by omega)
      have idle := startsAt_of_waiting ws (c := v + 1 + k) (by omega)
      rw [← Nat.add_assoc, wait_succ, idle, waiting]
      simp only [Bool.false_eq_true, if_false]
      omega

/-- A countdown that has not ended names the cycle in which it began. -/
theorem start_of_waiting {t : Nat} (h : (runAt ws t).wait ≠ 0) :
    ∃ v, startsAt ws v = true ∧ t + (runAt ws t).wait = v + 4 := by
  induction t with
  | zero => exact absurd rfl h
  | succ t ih =>
      have law := wait_succ ws t
      cases hs : startsAt ws t with
      | true =>
          rw [hs, if_pos rfl] at law
          exact ⟨t, hs, by omega⟩
      | false =>
          simp only [hs, Bool.false_eq_true, if_false] at law
          obtain ⟨v, start, hv⟩ := ih (by omega)
          exact ⟨v, start, by omega⟩

theorem wait_eq_iff (v : Nat) {j : Nat} (pos : 0 < j) (hj : j ≤ 3) :
    (runAt ws (v + (4 - j))).wait = j ↔ startsAt ws v = true := by
  constructor
  · intro h
    obtain ⟨v', start, hv⟩ := start_of_waiting ws (t := v + (4 - j)) (by omega)
    rwa [show v = v' by omega]
  · intro start
    rw [show v + (4 - j) = v + 1 + (3 - j) by omega, wait_after_start ws start (by omega)]
    omega

/-- An operation occupies the three cycles after its start. -/
theorem waiting_iff (t : Nat) :
    (runAt ws t).wait ≠ 0 ↔ ∃ v, v < t ∧ t ≤ v + 3 ∧ startsAt ws v = true := by
  constructor
  · intro h
    have bound := wait_le ws t
    change (runAt ws t).wait ≤ 3 at bound
    obtain ⟨v, start, hv⟩ := start_of_waiting ws h
    exact ⟨v, by omega, by omega, start⟩
  · rintro ⟨v, hvt, htv, start⟩
    have waiting := wait_after_start ws start (k := t - (v + 1)) (by omega)
    rw [show v + 1 + (t - (v + 1)) = t by omega] at waiting
    omega

/-- The outcomes the engine has recorded are those of the starts so far. -/
theorem ops_eq_history (t : Nat) : (runAt ws t).ops = history (outcomeAt ws) t := by
  induction t with
  | zero => rfl
  | succ t ih =>
      rw [at_succ, step_ops, history_succ, ← ih]
      change (if startsAt ws t then _ else _) = _
      cases h : startsAt ws t with
      | true => simp [outcomeAt, h]
      | false => simp [outcomeAt, h]

end Runs
end Engine
end AxiAlu
