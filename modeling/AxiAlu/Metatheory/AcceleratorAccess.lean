import AxiAlu.Metatheory.AcceleratorLedger
import AxiAlu.Software.Program

/-!
The accesses of a program on the accelerator. Whatever state an access starts in and
however it is timed, it ends within four cycles of waiting for each of its events: the
cycles before its command is accepted leave the ledger as it was, and a read brings back
what the engine shows two cycles after its own, with nothing left in progress.
-/
namespace AxiAlu.Accelerator
variable {addrWidth dataWidth : Nat}

def device : Device addrWidth dataWidth (Accelerator addrWidth dataWidth) :=
  { step := step
    waitrequest := fun x => decide (x.phase ≠ .idle)
    response := response }

/-- What cycles without an accepted command leave of a state. -/
structure Waited (x y : Accelerator addrWidth dataWidth) : Prop where
  paced : y.Paced
  ledger : y.ledger = x.ledger
  settled : x.Settled → y.Settled

theorem Waited.refl {x : Accelerator addrWidth dataWidth} (paced : x.Paced) : Waited x x :=
  ⟨paced, rfl, id⟩

theorem Waited.step {x y : Accelerator addrWidth dataWidth} (h : Waited x y)
    {i : Avalon addrWidth dataWidth} (quiet : y.accepts i = none) : Waited x (y.step i) := by
  refine ⟨paced_step i h.paced, ?_, fun settled => settled_step i (h.settled settled) ?_⟩
  · rw [ledger_step i h.paced, quiet, ← h.ledger]
    rfl
  · rw [quiet]
    rfl

theorem accepts_silent (x : Accelerator addrWidth dataWidth) (i : Avalon addrWidth dataWidth) :
    x.accepts i.silent = none := by
  simp [accepts, Avalon.silent, Avalon.command]

theorem accepts_busy {x : Accelerator addrWidth dataWidth} (busy : x.phase ≠ .idle)
    (i : Avalon addrWidth dataWidth) : x.accepts i = none :=
  if_neg busy

theorem command_lines (i : Avalon addrWidth dataWidth) (c : Command addrWidth dataWidth) :
    (c.lines i).command = some c := by
  cases c <;> rfl

theorem waited_idle {x : Accelerator addrWidth dataWidth} (paced : x.Paced)
    (gap : List (Avalon addrWidth dataWidth)) : Waited x (device.idle x gap) := by
  suffices later : ∀ y, Waited x y → Waited x (device.idle y gap) from
    later x (.refl paced)
  induction gap with
  | nil => exact fun y h => h
  | cons i gap ih => exact fun y h => ih _ (h.step (accepts_silent y i))

/-- A held command is accepted in the first idle cycle; what the cycles before it keep
still holds then. -/
theorem issue_keeps {P : Accelerator addrWidth dataWidth → Prop}
    (lines : Avalon addrWidth dataWidth)
    (keeps : ∀ y i, P y → y.phase ≠ .idle → P (y.step i)) {limit : Nat}
    {y : Accelerator addrWidth dataWidth} (h : P y) (soon : y.phase.left < limit) :
    ∃ z, P z ∧ z.phase = .idle ∧ device.issue lines limit y = some (z.step lines) := by
  induction limit generalizing y with
  | zero => exact absurd soon (Nat.not_lt_zero _)
  | succ limit ih =>
      by_cases idle : y.phase = .idle
      · refine ⟨y, h, idle, ?_⟩
        simp [Device.issue, device, idle]
      · have nearer : (y.step lines).phase.left = y.phase.left - 1 := Phase.left_next idle _ _
        have more : y.phase.left ≠ 0 := Phase.left_ne_zero idle
        obtain ⟨z, hz, idle', issued⟩ := ih (keeps y lines h idle) (by omega)
        refine ⟨z, hz, idle', ?_⟩
        rw [← issued]
        simp [Device.issue, device, idle]

/-- The four cycles of a read, from its acceptance to its response: in the third one it
samples the engine, and with the response nothing is in progress any more. -/
theorem await_read {limit : Nat} (patient : 4 ≤ limit) (rest : Avalon addrWidth dataWidth)
    {x z : Accelerator addrWidth dataWidth} (waited : Waited x z) (idle : z.phase = .idle)
    (addr : BitVec addrWidth) :
    let z₁ := z.step (Command.lines rest (.read addr))
    let z₂ := z₁.step rest.silent
    ∃ y, Waited x z₂ ∧ z₂.phase = .sampling addr ∧
      Waited x y ∧ y.Settled ∧ y.phase = .idle ∧
      device.await rest limit z₁ = some (z₂.engine.read addr, y) := by
  intro z₁ z₂
  let z₃ := z₂.step rest.silent
  let z₄ := z₃.step rest.silent
  have accepted : z.accepts (Command.lines rest (.read addr)) = some (.read addr) := by
    rw [accepts, if_pos idle, command_lines]
  obtain ⟨asked, sampling, returning, freed⟩ :=
    read_phases accepted rest.silent rest.silent rest.silent
  have answered : device.await rest limit z₁ = some (z₂.engine.read addr, z₄) := by
    obtain ⟨m, rfl⟩ : ∃ m, limit = m + 4 := ⟨limit - 4, by omega⟩
    have none₁ : device.response z₁ = none := congrArg Phase.data? idle
    have none₂ : device.response z₂ = none := congrArg Phase.data? asked
    have none₃ : device.response z₃ = none := congrArg Phase.data? sampling
    have some₄ : device.response z₄ = some (z₂.engine.read addr) :=
      congrArg Phase.data? returning
    calc device.await rest (m + 4) z₁
        = device.await rest (m + 3) z₂ := device.await_none none₁
      _ = device.await rest (m + 2) z₃ := device.await_none none₂
      _ = device.await rest (m + 1) z₄ := device.await_none none₃
      _ = some (z₂.engine.read addr, z₄) := device.await_some some₄
  have waited₁ : Waited x z₁ := by
    refine ⟨paced_step _ waited.paced, ?_, fun settled => ?_⟩
    · rw [ledger_step _ waited.paced, accepted, ← waited.ledger]
      rfl
    · exact settled_step _ (waited.settled settled) (by rw [accepted]; rfl)
  have waited₂ : Waited x z₂ := waited₁.step (accepts_silent _ _)
  have waited₃ : Waited x z₃ := waited₂.step (accepts_silent _ _)
  have waited₄ : Waited x z₄ := waited₃.step (accepts_silent _ _)
  have settled₃ : z₃.Settled := by
    have pace := waited₃.paced
    rw [Paced, returning] at pace
    exact ⟨Nat.le_zero.mp pace, by rw [returning]; rfl⟩
  exact ⟨z₄, waited₂, sampling, waited₄,
    settled_step _ settled₃ (by rw [accepts_silent]; rfl), freed, answered⟩

end AxiAlu.Accelerator
