import AxiAlu.Metatheory.EngineLaws

/-!
What a state of the accelerator amounts to for software. Its ledger is the record
of the engine with the write in flight already entered; it changes only when a
write is accepted. This needs that the engine is free when the write reaches it,
which is the pace of the phases against the three cycles of an operation.
-/
namespace AxiAlu
open Clocked
variable {addrWidth dataWidth : Nat}

namespace Phase

def inFlight : Phase addrWidth dataWidth → Option (Write addrWidth dataWidth)
  | .posted w | .buffered w | .pulsing w => some w
  | _ => none

def left : Phase addrWidth dataWidth → Nat
  | .idle => 0
  | .posted _ | .asked _ => 3
  | .buffered _ | .sampling _ => 2
  | .pulsing _ | .returning _ => 1

/-- How long an operation may still take in a phase. -/
def slack : Phase addrWidth dataWidth → Nat
  | .idle => 3
  | p => p.left - 1

theorem left_le (p : Phase addrWidth dataWidth) : p.left ≤ 3 := by
  cases p <;> simp [left]

theorem left_ne_zero {p : Phase addrWidth dataWidth} (busy : p ≠ .idle) : p.left ≠ 0 := by
  cases p with
  | idle => exact absurd rfl busy
  | posted _ | buffered _ | pulsing _ | asked _ | sampling _ | returning _ => simp [left]

theorem left_next {p : Phase addrWidth dataWidth} (busy : p ≠ .idle)
    (command : Option (Command addrWidth dataWidth))
    (read : BitVec addrWidth → BitVec dataWidth) : (p.next command read).left = p.left - 1 := by
  cases p with
  | idle => exact absurd rfl busy
  | posted _ | buffered _ | pulsing _ | asked _ | sampling _ | returning _ => rfl

end Phase

namespace Accelerator

/-- The command accepted in a cycle: only the idle phase accepts one. -/
def accepts (x : Accelerator addrWidth dataWidth) (i : Avalon addrWidth dataWidth) :
    Option (Command addrWidth dataWidth) :=
  if x.phase = .idle then i.command else none

theorem accepts_eq_some {x : Accelerator addrWidth dataWidth} {i : Avalon addrWidth dataWidth}
    {command : Command addrWidth dataWidth} :
    x.accepts i = some command ↔ x.phase = .idle ∧ i.command = some command := by
  simp [accepts]

theorem step_phase (x : Accelerator addrWidth dataWidth) (i : Avalon addrWidth dataWidth) :
    (x.step i).phase = x.phase.next i.command x.engine.read := rfl

/-- An operation in progress is over when the next write reaches the engine. -/
def Paced (x : Accelerator addrWidth dataWidth) : Prop := x.engine.wait ≤ x.phase.slack

/-- The registers and the operations once the write in flight has reached the engine. -/
def ledger (x : Accelerator addrWidth dataWidth) :
    Registers dataWidth × List (BitVec dataWidth × Bool) :=
  x.phase.inFlight.elim (x.engine.regs, x.engine.ops)
    (Registers.record (x.engine.regs, x.engine.ops))

def Settled (x : Accelerator addrWidth dataWidth) : Prop :=
  x.engine.wait = 0 ∧ x.phase.inFlight = none

/-- The phases of a read, from the cycle in which it is accepted. -/
theorem read_phases {x : Accelerator addrWidth dataWidth} {i₀ : Avalon addrWidth dataWidth}
    {addr : BitVec addrWidth} (accepted : x.accepts i₀ = some (.read addr))
    (i₁ i₂ i₃ : Avalon addrWidth dataWidth) :
    (x.step i₀).phase = .asked addr ∧ ((x.step i₀).step i₁).phase = .sampling addr ∧
      (((x.step i₀).step i₁).step i₂).phase =
        .returning (((x.step i₀).step i₁).engine.read addr) ∧
      ((((x.step i₀).step i₁).step i₂).step i₃).phase = .idle := by
  obtain ⟨idle, command⟩ := accepts_eq_some.mp accepted
  have asked : (x.step i₀).phase = .asked addr := by
    rw [step_phase, idle, command]
    rfl
  have sampling : ((x.step i₀).step i₁).phase = .sampling addr := by
    rw [step_phase, asked]
    rfl
  have returning : (((x.step i₀).step i₁).step i₂).phase =
      .returning (((x.step i₀).step i₁).engine.read addr) := by
    rw [step_phase, sampling]
    rfl
  refine ⟨asked, sampling, returning, ?_⟩
  rw [step_phase, returning]
  rfl

theorem write_phases {x : Accelerator addrWidth dataWidth} {i₀ : Avalon addrWidth dataWidth}
    {w : Write addrWidth dataWidth} (accepted : x.accepts i₀ = some (.write w))
    (i₁ i₂ i₃ : Avalon addrWidth dataWidth) :
    (x.step i₀).phase = .posted w ∧ ((x.step i₀).step i₁).phase = .buffered w ∧
      (((x.step i₀).step i₁).step i₂).phase = .pulsing w ∧
      ((((x.step i₀).step i₁).step i₂).step i₃).phase = .idle := by
  obtain ⟨idle, command⟩ := accepts_eq_some.mp accepted
  have posted : (x.step i₀).phase = .posted w := by
    rw [step_phase, idle, command]
    rfl
  have buffered : ((x.step i₀).step i₁).phase = .buffered w := by
    rw [step_phase, posted]
    rfl
  have pulsing : (((x.step i₀).step i₁).step i₂).phase = .pulsing w := by
    rw [step_phase, buffered]
    rfl
  refine ⟨posted, buffered, pulsing, ?_⟩
  rw [step_phase, pulsing]
  rfl

theorem step_engine_quiet {x : Accelerator addrWidth dataWidth}
    (quiet : x.phase.write? = none) (i : Avalon addrWidth dataWidth) :
    (x.step i).engine = { x.engine with wait := x.engine.wait - 1 } := by
  simp only [step, quiet, Engine.step]

section Steps
variable {x : Accelerator addrWidth dataWidth} (i : Avalon addrWidth dataWidth)

theorem paced_step (h : x.Paced) : (x.step i).Paced := by
  have phase := step_phase x i
  cases hp : x.phase with
  | pulsing w =>
      rw [hp] at phase
      rw [Paced, phase]
      change (x.engine.step x.phase.write?).wait ≤ 3
      rw [Engine.step_wait]
      simp only [Paced, hp, Phase.slack, Phase.left] at h
      split <;> omega
  | idle =>
      have engine := step_engine_quiet (x := x) (by rw [hp]; rfl) i
      simp only [Paced, hp, Phase.slack] at h
      rw [hp] at phase
      rw [Paced, phase, engine]
      cases i.command with
      | none => exact Nat.le_trans (Nat.sub_le _ _) h
      | some command =>
          cases command <;> exact Nat.sub_le_sub_right h 1
  | posted _ | buffered _ | asked _ | sampling _ =>
      have engine := step_engine_quiet (x := x) (by rw [hp]; rfl) i
      simp only [Paced, hp, Phase.slack, Phase.left] at h
      rw [hp] at phase
      rw [Paced, phase, engine]
      exact Nat.sub_le_sub_right h 1
  | returning _ =>
      have engine := step_engine_quiet (x := x) (by rw [hp]; rfl) i
      simp only [Paced, hp, Phase.slack, Phase.left] at h
      rw [hp] at phase
      rw [Paced, phase, engine]
      exact Nat.le_trans (Nat.sub_le _ _) (Nat.le_trans h (Nat.zero_le _))

/-- The ledger grows by the write that is accepted, and by nothing else. -/
theorem ledger_step (h : x.Paced) :
    (x.step i).ledger =
      ((x.accepts i).bind Command.write?).elim x.ledger (Registers.record x.ledger) := by
  have phase := step_phase x i
  cases hp : x.phase with
  | idle =>
      have engine := step_engine_quiet (x := x) (by rw [hp]; rfl) i
      simp only [ledger, accepts, hp, if_true, phase, engine, Phase.inFlight]
      cases i.command with
      | none => rfl
      | some command => cases command <;> rfl
  | pulsing w =>
      have free : x.engine.wait = 0 := by
        simpa [Paced, hp, Phase.slack, Phase.left] using h
      have recorded : (x.step i).engine.regs = x.engine.regs.write w ∧
          (x.step i).engine.ops = if w.isStart then x.engine.ops ++ [x.engine.regs.outcome]
            else x.engine.ops := by
        change (x.engine.step x.phase.write?).regs = _ ∧ (x.engine.step x.phase.write?).ops = _
        rw [Engine.step_regs, Engine.step_ops, hp]
        simp [Phase.write?, Engine.starts, free]
      simp only [ledger, accepts, hp, phase, recorded, Phase.inFlight, Phase.next]
      rfl
  | posted _ | buffered _ | asked _ | sampling _ | returning _ =>
      have engine := step_engine_quiet (x := x) (by rw [hp]; rfl) i
      simp only [ledger, accepts, hp, phase, engine, Phase.inFlight, Phase.next]
      rfl

theorem settled_step (h : x.Settled) (noWrite : (x.accepts i).bind Command.write? = none) :
    (x.step i).Settled := by
  have phase := step_phase x i
  obtain ⟨free, none⟩ := h
  have quiet : x.phase.write? = Option.none := by
    cases hp : x.phase <;> simp_all [Phase.write?, Phase.inFlight]
  refine ⟨by rw [step_engine_quiet quiet, free], ?_⟩
  cases hp : x.phase with
  | idle =>
      rw [phase, hp]
      simp only [accepts, hp, if_true] at noWrite
      cases hc : i.command with
      | none => rfl
      | some command =>
          cases command with
          | write w => simp [hc, Command.write?] at noWrite
          | read addr => rfl
  | posted _ | buffered _ | pulsing _ => simp [hp, Phase.inFlight] at none
  | asked _ | sampling _ | returning _ => rw [phase, hp]; rfl

end Steps
end Accelerator
end AxiAlu
