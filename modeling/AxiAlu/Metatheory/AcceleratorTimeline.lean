import AxiAlu.Metatheory.AcceleratorLedger

/-!
The accelerator in time. An accepted command occupies the three cycles after its
acceptance; a write reaches the engine three cycles after it and a read samples
the engine two cycles after it. So the engine only ever meets a start when it is
free, and a read meets an operation in progress in one case only.
-/
namespace AxiAlu
open Clocked
variable {addrWidth dataWidth : Nat}

/-- What a phase tells of the cycle before it. -/
def Phase.EnteredFrom (p : Phase addrWidth dataWidth)
    (command : Option (Command addrWidth dataWidth))
    (read : BitVec addrWidth → BitVec dataWidth) : Phase addrWidth dataWidth → Prop
  | .idle => True
  | .posted w => p = .idle ∧ command = some (.write w)
  | .buffered w => p = .posted w
  | .pulsing w => p = .buffered w
  | .asked addr => p = .idle ∧ command = some (.read addr)
  | .sampling addr => p = .asked addr
  | .returning data => ∃ addr, p = .sampling addr ∧ read addr = data

theorem Phase.next_enteredFrom (p : Phase addrWidth dataWidth)
    (command : Option (Command addrWidth dataWidth))
    (read : BitVec addrWidth → BitVec dataWidth) :
    p.EnteredFrom command read (p.next command read) := by
  cases p with
  | idle =>
      cases command with
      | none => trivial
      | some command => cases command <;> exact ⟨rfl, rfl⟩
  | posted w | buffered w | asked addr => rfl
  | sampling addr => exact ⟨addr, rfl, rfl⟩
  | pulsing w | returning data => trivial

namespace Accelerator
section Runs
variable (inp : Nat → Avalon addrWidth dataWidth)

def runAt (t : Nat) : Accelerator addrWidth dataWidth := machine.run inp t

def acceptedAt (c : Nat) : Option (Command addrWidth dataWidth) :=
  (runAt inp c).accepts (inp c)

def writeAt (c : Nat) : Option (Write addrWidth dataWidth) := (runAt inp c).phase.write?

def writesBefore (t : Nat) : List (Write addrWidth dataWidth) :=
  (history (acceptedAt inp) t).filterMap Command.write?

theorem writesBefore_succ (t : Nat) :
    writesBefore inp (t + 1) =
      writesBefore inp t ++ ((acceptedAt inp t).bind Command.write?).toList := by
  rw [writesBefore, writesBefore, history_succ, List.filterMap_append]
  cases acceptedAt inp t with
  | none => rfl
  | some command => cases command <;> rfl

theorem engine_run (t : Nat) : (runAt inp t).engine = Engine.runAt (writeAt inp) t :=
  Machine.run_component machine Engine.machine engine (fun x _ => x.phase.write?) rfl
    (fun _ _ => rfl) inp t

theorem response_succ (t : Nat) :
    (runAt inp (t + 1)).response = (runAt inp t).phase.data? := rfl

theorem entered (t : Nat) :
    (runAt inp t).phase.EnteredFrom (inp t).command (runAt inp t).engine.read
      (runAt inp (t + 1)).phase :=
  Phase.next_enteredFrom _ _ _

theorem accepted_eq_some {c : Nat} {command : Command addrWidth dataWidth} :
    acceptedAt inp c = some command ↔
      (runAt inp c).phase = .idle ∧ (inp c).command = some command :=
  accepts_eq_some

section Commands
variable {n : Nat}

theorem phases_of_write {w : Write addrWidth dataWidth}
    (accepted : acceptedAt inp n = some (.write w)) :
    (runAt inp (n + 1)).phase = .posted w ∧ (runAt inp (n + 2)).phase = .buffered w ∧
      (runAt inp (n + 3)).phase = .pulsing w ∧ (runAt inp (n + 4)).phase = .idle :=
  write_phases accepted (inp (n + 1)) (inp (n + 2)) (inp (n + 3))

theorem phases_of_read {addr : BitVec addrWidth}
    (accepted : acceptedAt inp n = some (.read addr)) :
    (runAt inp (n + 1)).phase = .asked addr ∧ (runAt inp (n + 2)).phase = .sampling addr ∧
      (runAt inp (n + 3)).phase = .returning ((runAt inp (n + 2)).engine.read addr) ∧
      (runAt inp (n + 4)).phase = .idle :=
  read_phases accepted (inp (n + 1)) (inp (n + 2)) (inp (n + 3))

theorem busy_after {command : Command addrWidth dataWidth}
    (accepted : acceptedAt inp n = some command) :
    (∀ k, 0 < k → k < 4 → (runAt inp (n + k)).phase ≠ .idle) ∧
      (runAt inp (n + 4)).phase = .idle := by
  cases command with
  | write w =>
      obtain ⟨posted, buffered, pulsing, idle⟩ := phases_of_write inp accepted
      refine ⟨fun k h₁ h₂ => ?_, idle⟩
      obtain rfl | rfl | rfl : k = 1 ∨ k = 2 ∨ k = 3 := by omega
      · simp [posted]
      · simp [buffered]
      · simp [pulsing]
  | read addr =>
      obtain ⟨asked, sampling, returning, idle⟩ := phases_of_read inp accepted
      refine ⟨fun k h₁ h₂ => ?_, idle⟩
      obtain rfl | rfl | rfl : k = 1 ∨ k = 2 ∨ k = 3 := by omega
      · simp [asked]
      · simp [sampling]
      · simp [returning]

theorem accepted_spacing {m : Nat} {command command' : Command addrWidth dataWidth}
    (accepted : acceptedAt inp n = some command) (accepted' : acceptedAt inp m = some command')
    (later : n < m) : n + 4 ≤ m := by
  by_contra near
  have busy := (busy_after inp accepted).1 (m - n) (by omega) (by omega)
  rw [show n + (m - n) = m by omega] at busy
  exact busy ((accepted_eq_some inp).mp accepted').1

end Commands

theorem entered_busy {t : Nat} {p : Phase addrWidth dataWidth} (busy : p ≠ .idle)
    (phase : (runAt inp t).phase = p) :
    ∃ u, t = u + 1 ∧
      (runAt inp u).phase.EnteredFrom (inp u).command (runAt inp u).engine.read p := by
  cases t with
  | zero => exact absurd phase.symm busy
  | succ u => exact ⟨u, rfl, phase ▸ entered inp u⟩

theorem accepted_of_pulsing {t : Nat} {w : Write addrWidth dataWidth}
    (pulsing : (runAt inp t).phase = .pulsing w) :
    ∃ n, t = n + 3 ∧ acceptedAt inp n = some (.write w) := by
  obtain ⟨t, rfl, buffered⟩ := entered_busy inp (by simp) pulsing
  obtain ⟨t, rfl, posted⟩ := entered_busy inp (by simp) buffered
  obtain ⟨n, rfl, accepted⟩ := entered_busy inp (by simp) posted
  exact ⟨n, rfl, (accepted_eq_some inp).mpr accepted⟩

theorem accepted_of_returning {t : Nat} {data : BitVec dataWidth}
    (returning : (runAt inp t).phase = .returning data) :
    ∃ n addr, t = n + 3 ∧ acceptedAt inp n = some (.read addr) := by
  obtain ⟨t, rfl, addr, sampling, _⟩ := entered_busy inp (by simp) returning
  obtain ⟨t, rfl, asked⟩ := entered_busy inp (by simp) sampling
  obtain ⟨n, rfl, accepted⟩ := entered_busy inp (by simp) asked
  exact ⟨n, addr, rfl, (accepted_eq_some inp).mpr accepted⟩

/-- A phase in progress names the cycle in which its command was accepted. -/
theorem accepted_of_busy {t : Nat} (busy : (runAt inp t).phase ≠ .idle) :
    ∃ n command, acceptedAt inp n = some command ∧ t + (runAt inp t).phase.left = n + 4 := by
  induction t with
  | zero => exact absurd rfl busy
  | succ t ih =>
      have next : (runAt inp (t + 1)).phase = _ := step_phase (runAt inp t) (inp t)
      by_cases idle : (runAt inp t).phase = .idle
      · cases command : (inp t).command with
        | none =>
            rw [idle, command] at next
            exact absurd next busy
        | some accepted =>
            refine ⟨t, accepted, (accepted_eq_some inp).mpr ⟨idle, command⟩, ?_⟩
            rw [next, idle, command]
            cases accepted <;> rfl
      · obtain ⟨n, command, accepted, begun⟩ := ih idle
        have law := Phase.left_next idle (inp t).command (runAt inp t).engine.read
        rw [← next] at law
        have more : (runAt inp (t + 1)).phase.left ≠ 0 := Phase.left_ne_zero busy
        exact ⟨n, command, accepted, by omega⟩

theorem busy_iff (t : Nat) :
    (runAt inp t).phase ≠ .idle ↔
      ∃ n, n < t ∧ t ≤ n + 3 ∧ (acceptedAt inp n).isSome = true := by
  constructor
  · intro busy
    obtain ⟨n, command, accepted, begun⟩ := accepted_of_busy inp busy
    have more := Phase.left_ne_zero busy
    have bound := (runAt inp t).phase.left_le
    exact ⟨n, by omega, by omega, by rw [accepted]; rfl⟩
  · rintro ⟨n, hnt, htn, some⟩
    obtain ⟨command, accepted⟩ := Option.isSome_iff_exists.mp some
    have busy := (busy_after inp accepted).1 (t - n) (by omega) (by omega)
    rwa [show n + (t - n) = t by omega] at busy

/-- Whatever comes in, a command is accepted again within three cycles. -/
theorem idle_soon (t : Nat) : ∃ k, k ≤ 3 ∧ (runAt inp (t + k)).phase = .idle := by
  by_cases idle : (runAt inp t).phase = .idle
  · exact ⟨0, Nat.zero_le _, idle⟩
  · obtain ⟨n, command, accepted, begun⟩ := accepted_of_busy inp idle
    refine ⟨(runAt inp t).phase.left, (runAt inp t).phase.left_le, ?_⟩
    rw [begun]
    exact (busy_after inp accepted).2

theorem writeAt_eq_some {t : Nat} {w : Write addrWidth dataWidth} :
    writeAt inp t = some w ↔ (runAt inp t).phase = .pulsing w := by
  rw [writeAt]
  cases (runAt inp t).phase <;> simp [Phase.write?]

theorem accepted_of_writeAt {t : Nat} {w : Write addrWidth dataWidth}
    (pulsed : writeAt inp t = some w) :
    ∃ n, t = n + 3 ∧ acceptedAt inp n = some (.write w) :=
  accepted_of_pulsing inp ((writeAt_eq_some inp).mp pulsed)

theorem writeAt_of_accepted {n : Nat} {w : Write addrWidth dataWidth}
    (accepted : acceptedAt inp n = some (.write w)) : writeAt inp (n + 3) = some w :=
  (writeAt_eq_some inp).mpr (phases_of_write inp accepted).2.2.1

theorem paced_run (t : Nat) : (runAt inp t).Paced :=
  Machine.run_invariant machine Paced (Nat.zero_le _) (fun _ i h => paced_step i h) inp t

theorem ledger_run (t : Nat) :
    (runAt inp t).ledger =
      (writesBefore inp t).foldl Registers.record (Registers.zero, []) := by
  induction t with
  | zero => rfl
  | succ t ih =>
      have step_eq : runAt inp (t + 1) = (runAt inp t).step (inp t) := rfl
      rw [step_eq, ledger_step _ (paced_run inp t), ih]
      change (((acceptedAt inp t).bind Command.write?).elim _ _) = _
      rw [writesBefore_succ, List.foldl_append]
      cases (acceptedAt inp t).bind Command.write? <;> rfl

/-- The engine is free whenever it meets a write. -/
theorem wait_at_write {t : Nat} {w : Write addrWidth dataWidth}
    (pulsed : writeAt inp t = some w) : (runAt inp t).engine.wait = 0 := by
  have pace := paced_run inp t
  rw [Paced, (writeAt_eq_some inp).mp pulsed] at pace
  exact Nat.le_zero.mp pace

/-- An operation starts three cycles after each accepted start and at no other time. -/
theorem startsAt_iff (t : Nat) :
    Engine.startsAt (writeAt inp) t = true ↔
      ∃ n w, t = n + 3 ∧ acceptedAt inp n = some (.write w) ∧ w.isStart = true := by
  constructor
  · intro start
    cases started : writeAt inp t with
    | none => simp [Engine.startsAt, Engine.starts, started] at start
    | some w =>
        obtain ⟨n, ht, accepted⟩ := accepted_of_writeAt inp started
        refine ⟨n, w, ht, accepted, ?_⟩
        simp only [Engine.startsAt, Engine.starts, started, Option.any_some,
          Bool.and_eq_true] at start
        exact start.1
  · rintro ⟨n, w, rfl, accepted, isStart⟩
    have pulsed := writeAt_of_accepted inp accepted
    have free := wait_at_write inp pulsed
    rw [engine_run] at free
    simp [Engine.startsAt, Engine.starts, pulsed, isStart, free]

/-- A start command was accepted exactly four cycles before, and no command since. -/
def JustStarted (n : Nat) : Prop :=
  ∃ m w, n = m + 4 ∧ acceptedAt inp m = some (.write w) ∧ w.isStart = true

section Reads
variable {n : Nat} {addr : BitVec addrWidth}

/-- A read samples what the writes accepted before it have left, in the one
exceptional case with the last operation still in progress. -/
theorem sampled_engine (accepted : acceptedAt inp n = some (.read addr)) :
    (runAt inp (n + 2)).engine.regs = Registers.after (writesBefore inp n) ∧
      (runAt inp (n + 2)).engine.ops = operations (writesBefore inp n) ∧
      ((runAt inp (n + 2)).engine.wait ≠ 0 ↔ JustStarted inp n) := by
  obtain ⟨asked, sampling, _⟩ := phases_of_read inp accepted
  have later : acceptedAt inp (n + 1) = none := by
    simp [acceptedAt, accepts, asked]
  have writes : writesBefore inp (n + 2) = writesBefore inp n := by
    rw [writesBefore_succ, writesBefore_succ, later, accepted]
    simp [Command.write?]
  have entered : (runAt inp (n + 2)).ledger =
      ((runAt inp (n + 2)).engine.regs, (runAt inp (n + 2)).engine.ops) := by
    rw [ledger, sampling]
    rfl
  have recorded := ledger_run inp (n + 2)
  rw [entered, writes] at recorded
  refine ⟨?_, congrArg Prod.snd recorded, ?_⟩
  · exact (congrArg Prod.fst recorded).trans (Registers.foldl_record_fst _ _)
  · rw [engine_run, Engine.waiting_iff]
    constructor
    · rintro ⟨v, hv, near, start⟩
      obtain ⟨m, w, rfl, started, isStart⟩ := (startsAt_iff inp v).mp start
      have gap := accepted_spacing inp started accepted (by omega)
      exact ⟨m, w, by omega, started, isStart⟩
    · rintro ⟨m, w, rfl, started, isStart⟩
      exact ⟨m + 3, by omega, by omega, (startsAt_iff inp _).mpr ⟨m, w, rfl, started, isStart⟩⟩

theorem response_of_read (accepted : acceptedAt inp n = some (.read addr)) :
    (runAt inp (n + 4)).response = some ((runAt inp (n + 2)).engine.read addr) := by
  rw [response_succ, (phases_of_read inp accepted).2.2.1]
  rfl

end Reads

theorem accepted_of_response {t : Nat} {data : BitVec dataWidth}
    (response : (runAt inp t).response = some data) :
    ∃ n addr, t = n + 4 ∧ acceptedAt inp n = some (.read addr) := by
  cases t with
  | zero => cases response
  | succ t =>
      rw [response_succ] at response
      cases phase : (runAt inp t).phase with
      | returning data' =>
          obtain ⟨n, addr, hn, accepted⟩ := accepted_of_returning inp phase
          exact ⟨n, addr, by omega, accepted⟩
      | idle | posted _ | buffered _ | pulsing _ | asked _ | sampling _ =>
          rw [phase] at response
          cases response

end Runs
end Accelerator
end AxiAlu
