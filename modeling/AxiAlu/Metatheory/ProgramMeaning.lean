import AxiAlu.Metatheory.AcceleratorAccess
import AxiAlu.Metatheory.AcceleratorTimeline
import AxiAlu.Metatheory.BusTrace
import AxiAlu.Metatheory.DeviceSimulation
import AxiAlu.Metatheory.StartPacing
import AxiAlu.Software.Driver
import AxiAlu.Software.Meaning

/-!
Every program does on the peripheral what it means. The only thing that has to be
known of the cycles before an access is whether the engine will have just begun an
operation in the first cycle in which the bus is free; idle cycles let that pass.
-/
namespace AxiAlu
open Clocked
variable {addrWidth dataWidth : Nat} {α : Type}

namespace Accelerator

/-- In the first cycle in which the bus is free, the engine will have just begun an
operation. -/
def begins (x : Accelerator addrWidth dataWidth) : Bool :=
  match x.phase with
  | .idle => x.engine.wait == 3
  | .posted w | .buffered w | .pulsing w => w.isStart
  | .asked _ | .sampling _ | .returning _ => false

theorem begins_step_busy {x : Accelerator addrWidth dataWidth} (paced : x.Paced)
    (busy : x.phase ≠ .idle) (i : Avalon addrWidth dataWidth) :
    (x.step i).begins = x.begins := by
  have phase := step_phase x i
  cases hp : x.phase with
  | idle => exact absurd hp busy
  | pulsing w =>
      have free : x.engine.wait = 0 := by
        simpa [Paced, hp, Phase.slack, Phase.left] using paced
      rw [hp] at phase
      have wait : (x.step i).engine.wait = if w.isStart then 3 else 0 := by
        change (x.engine.step x.phase.write?).wait = _
        rw [Engine.step_wait, hp]
        simp [Phase.write?, Engine.starts, free]
      rw [begins, begins, phase, hp]
      simp only [Phase.next, wait]
      cases w.isStart <;> rfl
  | returning data =>
      have free : x.engine.wait = 0 := by
        simpa [Paced, hp, Phase.slack, Phase.left] using paced
      rw [hp] at phase
      have wait : (x.step i).engine.wait = 0 := by
        rw [step_engine_quiet (by rw [hp]; rfl), free]
      rw [begins, begins, phase, hp]
      simp only [Phase.next, wait]
      rfl
  | posted _ | buffered _ | asked _ | sampling _ =>
      rw [begins, begins, phase, hp]
      rfl

theorem begins_step_idle {x : Accelerator addrWidth dataWidth} (paced : x.Paced)
    (idle : x.phase = .idle) (i : Avalon addrWidth dataWidth) :
    (x.step i.silent).begins = false ∧ (x.step i.silent).phase = .idle := by
  have phase : (x.step i.silent).phase = .idle := by
    rw [step_phase, idle]
    rfl
  have bound : x.engine.wait ≤ 3 := by
    simpa [Paced, idle, Phase.slack] using paced
  refine ⟨?_, phase⟩
  rw [begins, phase, step_engine_quiet (by rw [idle]; rfl)]
  exact beq_false_of_ne (by simp only [ne_eq]; omega)

/-- Idle cycles up to the one in which the bus is free again change nothing; one more
and the operation is no longer new. -/
theorem begins_idle {x : Accelerator addrWidth dataWidth} (paced : x.Paced)
    (gap : List (Avalon addrWidth dataWidth)) :
    (device.idle x gap).begins = (x.begins && decide (gap.length ≤ x.phase.left)) := by
  induction gap generalizing x with
  | nil => simp [Device.idle]
  | cons i gap ih =>
      refine (ih (paced_step i.silent paced)).trans ?_
      by_cases idle : x.phase = .idle
      · obtain ⟨gone, idle'⟩ := begins_step_idle paced idle i
        rw [gone, idle]
        simp [Phase.left]
      · have nearer : (x.step i.silent).phase.left = x.phase.left - 1 := Phase.left_next idle _ _
        have more : x.phase.left ≠ 0 := Phase.left_ne_zero idle
        rw [begins_step_busy paced idle, nearer, List.length_cons]
        congr 1
        rw [decide_eq_decide]
        omega

/-- An access of this timing would meet an operation in progress. -/
def meets (x : Accelerator addrWidth dataWidth) (gap : Nat) : Bool :=
  x.begins && decide (gap ≤ x.phase.left)

theorem not_meets_of_settled {x : Accelerator addrWidth dataWidth} (settled : x.Settled)
    (gap : Nat) : x.meets gap = false := by
  obtain ⟨free, none⟩ := settled
  have fresh : x.begins = false := by
    rw [begins]
    cases phase : x.phase with
    | idle => simp [free]
    | posted _ | buffered _ | pulsing _ => simp [phase, Phase.inFlight] at none
    | asked _ | sampling _ | returning _ => rfl
  rw [meets, fresh]
  rfl

section Rules
variable {limit : Nat} (patient : 4 ≤ limit) {x : Accelerator addrWidth dataWidth} (paced : x.Paced)
include patient paced

theorem access_meets (timing : Timing addrWidth dataWidth) (c : Command addrWidth dataWidth) :
    ∃ z, Waited x z ∧ z.phase = .idle ∧ z.begins = x.meets timing.gap.length ∧
      device.access limit timing c x = some (z.step (c.lines timing.rest)) := by
  have waited := waited_idle paced timing.gap
  have soon : (device.idle x timing.gap).phase.left < limit :=
    Nat.lt_of_le_of_lt (Phase.left_le _) patient
  have keeps : ∀ y i, Waited x y ∧ y.begins = (device.idle x timing.gap).begins →
      y.phase ≠ .idle →
        Waited x (y.step i) ∧ (y.step i).begins = (device.idle x timing.gap).begins := by
    rintro y i ⟨waited, begins⟩ busy
    exact ⟨waited.step (accepts_busy busy i), (begins_step_busy waited.paced busy i).trans begins⟩
  obtain ⟨z, ⟨waited, begins⟩, idle, issued⟩ :=
    issue_keeps (c.lines timing.rest) keeps ⟨waited, rfl⟩ soon
  exact ⟨z, waited, idle, begins.trans (begins_idle paced timing.gap), issued⟩

theorem write_meets (timing : Timing addrWidth dataWidth) (w : Write addrWidth dataWidth) :
    ∃ y : Accelerator addrWidth dataWidth, y.Paced ∧ y.ledger = Registers.record x.ledger w ∧
      (∀ gap, y.meets gap = (w.isStart && decide (gap ≤ 3))) ∧
      device.access limit timing (.write w) x = some y := by
  obtain ⟨z, waited, idle, _, accessed⟩ := access_meets patient paced timing (.write w)
  have accepted : z.accepts (Command.lines timing.rest (.write w)) = some (.write w) := by
    rw [accepts, if_pos idle, command_lines]
  obtain ⟨posted, _⟩ := write_phases accepted timing.rest timing.rest timing.rest
  refine ⟨_, paced_step _ waited.paced, ?_, fun gap => ?_, accessed⟩
  · rw [ledger_step _ waited.paced, accepted, waited.ledger]
    rfl
  · rw [meets, begins, posted]
    rfl

theorem read_meets (timing : Timing addrWidth dataWidth) (addr : BitVec addrWidth) :
    ∃ y z : Accelerator addrWidth dataWidth, z.Paced ∧ z.ledger = x.ledger ∧ z.Settled ∧
      device.access limit timing (.read addr) x = some y ∧
      device.await timing.rest limit y =
        some (Ledger.read x.ledger (x.meets timing.gap.length) addr, z) := by
  obtain ⟨z, waited, idle, begins, accessed⟩ := access_meets patient paced timing (.read addr)
  obtain ⟨y, waited₂, sampling, ended, settled, _, answered⟩ :=
    await_read patient timing.rest waited idle addr
  refine ⟨_, y, ended.paced, ended.ledger, settled, accessed, answered.trans ?_⟩
  let z₁ := z.step (Command.lines timing.rest (.read addr))
  let z₂ := z₁.step timing.rest.silent
  -- two more cycles of an operation pass before the read samples the engine
  have asked : z₁.phase = .asked addr := by
    change (z.phase.next _ _) = _
    rw [idle, command_lines]
    rfl
  have wait : z₂.engine.wait = z.engine.wait - 1 - 1 := by
    change (z₁.step _).engine.wait = _
    rw [step_engine_quiet (by rw [asked]; rfl)]
    change (z.step _).engine.wait - 1 = _
    rw [step_engine_quiet (by rw [idle]; rfl)]
  have bound : z.engine.wait ≤ 3 := by
    simpa [Paced, idle, Phase.slack] using waited.paced
  have newest : x.meets timing.gap.length = (z.engine.wait == 3) := by
    rw [← begins, Accelerator.begins, idle]
  have record : (z₂.engine.regs, z₂.engine.ops) = x.ledger := by
    rw [← waited₂.ledger, ledger, sampling]
    rfl
  refine congrArg (fun word => some (word, y)) ?_
  refine Engine.read_wait (congrArg Prod.fst record) (congrArg Prod.snd record) ?_ addr
  rw [wait, newest]
  cases three : z.engine.wait == 3 with
  | true => simp [beq_iff_eq.mp three]
  | false =>
      have notThree : z.engine.wait ≠ 3 := ne_of_beq_false three
      simp only [Bool.toNat_false]
      omega

/-- A program ends with the value, the accesses and the ledger that it means. -/
theorem execute_performs (p : Program addrWidth dataWidth α)
    (timing : Nat → Timing addrWidth dataWidth) :
    let gaps := fun k => (timing k).gap.length
    let meaning := p.perform gaps (x.meets (gaps 0)) x.ledger
    ∃ y : Accelerator addrWidth dataWidth, y.Paced ∧ y.ledger = meaning.2.2 ∧
      device.execute limit p timing x = some (meaning.1, meaning.2.1, y) := by
  induction p generalizing x timing with
  | done value => exact ⟨x, paced, rfl, rfl⟩
  | write addr word next ih =>
      obtain ⟨y, paced₁, ledger₁, meets₁, accessed⟩ :=
        write_meets patient paced (timing 0) (Write.whole addr word)
      obtain ⟨z, paced₂, ledger₂, executed⟩ := ih paced₁ (fun k => timing (k + 1))
      rw [meets₁, ledger₁] at ledger₂ executed
      refine ⟨z, paced₂, ledger₂, ?_⟩
      rw [Device.execute]
      change (device.access limit (timing 0) (.write (Write.whole addr word)) x).bind _ = _
      rw [accessed, Option.bind_some, executed]
      rfl
  | read addr next ih =>
      obtain ⟨y, z, paced₁, ledger₁, settled, accessed, answered⟩ :=
        read_meets patient paced (timing 0) addr
      obtain ⟨z', paced₂, ledger₂, executed⟩ :=
        ih (Ledger.read x.ledger (x.meets (timing 0).gap.length) addr) paced₁
          (fun k => timing (k + 1))
      rw [not_meets_of_settled settled, ledger₁] at ledger₂ executed
      refine ⟨z', paced₂, ledger₂, ?_⟩
      rw [Device.execute, accessed, Option.bind_some, answered, Option.bind_some]
      dsimp only
      rw [executed]
      rfl

end Rules
end Accelerator

namespace AvalonAxi4LiteAlu
section Runs
variable (inp : Nat → Avalon addrWidth dataWidth)

theorem ledger_eq (t : Nat) :
    (Accelerator.runAt inp t).ledger =
      (Registers.after (writesBefore inp t), operations (writesBefore inp t)) := by
  rw [Accelerator.ledger_run, writesBefore_eq, Registers.after, operations,
    ← Registers.foldl_record_fst (Registers.zero, [])]

/-- An access that comes after `gap` idle cycles meets an operation in progress if and
only if it so is accepted four cycles after a start. -/
theorem meets_iff (t gap : Nat) :
    (Accelerator.runAt inp t).meets gap = true ↔
      ∃ n w, acceptedAt inp n = some (.write w) ∧ w.isStart = true ∧ n < t ∧ t + gap ≤ n + 4 := by
  rw [Accelerator.meets, Bool.and_eq_true, decide_eq_true_eq]
  by_cases idle : (Accelerator.runAt inp t).phase = .idle
  · rw [Accelerator.begins, idle, beq_iff_eq, wait_eq_iff inp t (by decide) (by decide)]
    change (∃ n w, t + 3 = n + 7 ∧ _) ∧ gap ≤ 0 ↔ _
    constructor
    · rintro ⟨⟨n, w, at_n, accepted, isStart⟩, soon⟩
      exact ⟨n, w, accepted, isStart, by omega, by omega⟩
    · rintro ⟨n, w, accepted, isStart, before, soon⟩
      have late : n + 4 ≤ t := by
        by_contra early
        refine (Accelerator.busy_iff inp t).mpr ⟨n, before, by omega, ?_⟩ idle
        rw [← acceptedAt_eq, accepted]
        rfl
      exact ⟨⟨n, w, by omega, accepted, isStart⟩, by omega⟩
  · obtain ⟨n, command, accepted, begun⟩ := Accelerator.accepted_of_busy inp idle
    have bound := (Accelerator.runAt inp t).phase.left_le
    have more := Phase.left_ne_zero idle
    -- the phase is one of the three that the command goes through
    have begins : (Accelerator.runAt inp t).begins = (command.write?.any Write.isStart) := by
      obtain ⟨d, hd, rfl⟩ : ∃ d, d < 3 ∧ t = n + (d + 1) := ⟨t - n - 1, by omega, by omega⟩
      cases command with
      | write w =>
          obtain ⟨posted, buffered, pulsing, _⟩ := Accelerator.phases_of_write inp accepted
          match d, hd with
          | 0, _ => rw [Accelerator.begins, posted]; rfl
          | 1, _ => rw [Accelerator.begins, buffered]; rfl
          | 2, _ => rw [Accelerator.begins, pulsing]; rfl
      | read addr =>
          obtain ⟨asked, sampling, returning, _⟩ := Accelerator.phases_of_read inp accepted
          match d, hd with
          | 0, _ => rw [Accelerator.begins, asked]; rfl
          | 1, _ => rw [Accelerator.begins, sampling]; rfl
          | 2, _ => rw [Accelerator.begins, returning]; rfl
    rw [begins, acceptedAt_eq]
    constructor
    · rintro ⟨isStart, soon⟩
      cases command with
      | write w => exact ⟨n, w, accepted, isStart, by omega, by omega⟩
      | read addr => cases isStart
    · rintro ⟨n', w, accepted', isStart, before, soon⟩
      obtain rfl : n' = n := by
        have notLater : ¬ n < n' := fun later => by
          have apart := Accelerator.accepted_spacing inp accepted accepted' later
          omega
        have notEarlier : ¬ n' < n := fun earlier => by
          have apart := Accelerator.accepted_spacing inp accepted' accepted earlier
          omega
        omega
      rw [accepted] at accepted'
      cases accepted'
      exact ⟨isStart, by omega⟩

end Runs

theorem device_refines :
    Device.Simulates device (Accelerator.device : Device addrWidth dataWidth _) Refines where
  step := fun _ _ i h => refines_step h i
  waitrequest := fun _ _ h => h.phase.waitrequest
  response := fun _ _ h => h.response.symm

/-- What a program means on the accelerator it does on the peripheral. -/
theorem execute_performs (inp : Nat → Avalon addrWidth dataWidth) (t : Nat)
    (p : Program addrWidth dataWidth α) (timing : Nat → Timing addrWidth dataWidth)
    {limit : Nat} (patient : 4 ≤ limit) :
    let x := Accelerator.runAt inp t
    let gaps := fun k => (timing k).gap.length
    let meaning := p.perform gaps (x.meets (gaps 0)) x.ledger
    ∃ s y, device.execute limit p timing (machine.run inp t) = some (meaning.1, meaning.2.1, s) ∧
      s.Refines y ∧ y.ledger = meaning.2.2 := by
  intro x gaps meaning
  obtain ⟨y, _, ledger, executed⟩ :=
    Accelerator.execute_performs patient (Accelerator.paced_run inp t) p timing
  obtain ⟨s, onPeripheral, refines⟩ := device_refines.execute p (refines_run inp t) executed
  exact ⟨s, y, onPeripheral, refines, ledger⟩

/-- Whatever program is executed on the peripheral, in whatever state it has come to and
with whatever idle cycles between the accesses: no access waits for four cycles, so that
the program ends, and it ends with the value and the accesses that it means. A read of
STATUS or RESULT meets an operation in progress if and only if it is the next access
after a start and comes after at most three idle cycles. -/
theorem programs_perform (inp : Nat → Avalon addrWidth dataWidth) (t : Nat)
    (p : Program addrWidth dataWidth α) (timing : Nat → Timing addrWidth dataWidth)
    (limit : Nat) (patient : 4 ≤ limit) :
    ∃ inProgress s y,
      (inProgress = true ↔ ∃ n w, acceptedAt inp n = some (.write w) ∧ w.isStart = true ∧
        n < t ∧ t + (timing 0).gap.length ≤ n + 4) ∧
      let meaning := p.perform (fun k => (timing k).gap.length) inProgress
        (Registers.after (writesBefore inp t), operations (writesBefore inp t))
      device.execute limit p timing (machine.run inp t) = some (meaning.1, meaning.2.1, s) ∧
        s.Refines y ∧ y.ledger = meaning.2.2 := by
  obtain ⟨s, y, executed, refines, ledger⟩ := execute_performs inp t p timing patient
  rw [ledger_eq] at ledger executed
  exact ⟨_, s, y, meets_iff inp t _, executed, refines, ledger⟩

/-- A division by zero that is polled twice; four idle cycles stand before the start and
none before the polls. -/
def startAndPoll : Program 6 32 (BitVec 32 × BitVec 32) :=
  .write 0x10 3 (.write 0x00 1 (.read 0x04 fun first => .read 0x04 fun second =>
    .done (first, second)))
def pollAtOnce : Nat → Timing 6 32
  | 1 => { gap := [.quiet, .quiet, .quiet, .quiet], rest := .quiet }
  | _ => { gap := [], rest := .quiet }

theorem programs_perform_poll :
    (device.execute 4 startAndPoll pollAtOnce (machine.run (fun _ => .quiet) 0)).map Prod.fst =
      some (1#32, 6#32) := by
  obtain ⟨inProgress, s, y, started, executed, _⟩ :=
    programs_perform (fun _ => .quiet) 0 startAndPoll pollAtOnce 4 (by decide)
  obtain rfl : inProgress = false := by
    cases inProgress with
    | false => rfl
    | true =>
        obtain ⟨n, _, _, _, before, _⟩ := started.mp rfl
        exact absurd before (Nat.not_lt_zero n)
  refine (congrArg (Option.map Prod.fst) executed).trans (congrArg some ?_)
  change (startAndPoll.perform (fun k => (pollAtOnce k).gap.length) false
    (Registers.after (writesBefore (fun _ => .quiet) 0),
      operations (writesBefore (fun _ => .quiet) 0))).1 = _
  decide

end AvalonAxi4LiteAlu
end AxiAlu
