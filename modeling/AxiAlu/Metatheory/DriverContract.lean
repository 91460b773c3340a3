import AxiAlu.Metatheory.DriverCorrectness

/-!
The driver on a device of which nothing is known but that it accepts and answers: what
`alu_run` does there, and that it gives up when DONE is never shown.
-/
namespace AxiAlu
variable {addrWidth dataWidth : Nat} {α S : Type}

namespace Device

/-- From the states of a set that no step leaves, every command is accepted within
`limit` cycles and every accepted read is answered within `limit` cycles. -/
structure Obliging (D : Device addrWidth dataWidth S) (limit : Nat) (Among : S → Prop) : Prop where
  keeps : ∀ s i, Among s → Among (D.step s i)
  accepts : ∀ s lines, Among s → ∃ s', D.issue lines limit s = some s'
  answers : ∀ s s' addr rest, Among s →
    D.issue (Command.lines rest (.read addr)) limit s = some s' →
    ∃ word s'', D.await rest limit s' = some (word, s'')

section Executions
variable {D : Device addrWidth dataWidth S} {limit : Nat} {Among : S → Prop}

theorem idle_among (keeps : ∀ s i, Among s → Among (D.step s i)) {s : S} (among : Among s)
    (gap : List (Avalon addrWidth dataWidth)) : Among (D.idle s gap) := by
  induction gap generalizing s with
  | nil => exact among
  | cons i gap ih => exact ih (keeps s i.silent among)

theorem issue_among (keeps : ∀ s i, Among s → Among (D.step s i)) {s s' : S} (among : Among s)
    {lines : Avalon addrWidth dataWidth} (issued : D.issue lines limit s = some s') : Among s' := by
  induction limit generalizing s with
  | zero => cases issued
  | succ limit ih =>
      rw [issue] at issued
      cases busy : D.waitrequest s with
      | true =>
          rw [busy] at issued
          exact ih (keeps s lines among) issued
      | false =>
          rw [busy] at issued
          cases issued
          exact keeps s lines among

/-- Waiting ends in a state of the set, and with a word that is shown there. -/
theorem await_among (keeps : ∀ s i, Among s → Among (D.step s i)) {s s' : S} (among : Among s)
    {lines : Avalon addrWidth dataWidth} {word : BitVec dataWidth}
    (answered : D.await lines limit s = some (word, s')) :
    Among s' ∧ D.response s' = some word := by
  induction limit generalizing s with
  | zero => cases answered
  | succ limit ih =>
      cases response : D.response s with
      | none =>
          rw [D.await_none response] at answered
          exact ih (keeps s lines.silent among) answered
      | some word' =>
          rw [D.await_some response] at answered
          cases answered
          exact ⟨among, response⟩

theorem Obliging.execute_returns (obliging : D.Obliging limit Among)
    (p : Program addrWidth dataWidth α) (timing : Nat → Timing addrWidth dataWidth) {s : S}
    (among : Among s) : ∃ value log s', D.execute limit p timing s = some (value, log, s') := by
  induction p generalizing s timing with
  | done value => exact ⟨value, [], s, rfl⟩
  | write addr word next ih =>
      have waited := idle_among obliging.keeps among (timing 0).gap
      obtain ⟨s₁, issued⟩ := obliging.accepts _
        (Command.lines (timing 0).rest
          (.write { addr := addr, data := word, strb := BitVec.allOnes _ })) waited
      obtain ⟨value, log, s₂, executed⟩ :=
        ih (fun k => timing (k + 1)) (issue_among obliging.keeps waited issued)
      refine ⟨value, .write addr word :: log, s₂, ?_⟩
      rw [execute, access, issued, Option.bind_some, executed]
      rfl
  | read addr next ih =>
      have waited := idle_among obliging.keeps among (timing 0).gap
      obtain ⟨s₁, issued⟩ :=
        obliging.accepts _ (Command.lines (timing 0).rest (.read addr)) waited
      obtain ⟨word, s₂, answered⟩ := obliging.answers _ _ _ _ waited issued
      have asked := issue_among obliging.keeps waited issued
      obtain ⟨value, log, s₃, executed⟩ :=
        ih word (fun k => timing (k + 1)) (await_among obliging.keeps asked answered).1
      refine ⟨value, .read addr word :: log, s₃, ?_⟩
      rw [execute, access, issued, Option.bind_some, answered, Option.bind_some]
      dsimp only
      rw [executed]
      rfl

theorem execute_write_some {addr : BitVec addrWidth} {word : BitVec dataWidth}
    {next : Program addrWidth dataWidth α} {timing : Nat → Timing addrWidth dataWidth} {s s' : S}
    {value : α} {log : List (Access addrWidth dataWidth)}
    (executed : D.execute limit (.write addr word next) timing s = some (value, log, s')) :
    ∃ s₁ log', log = .write addr word :: log' ∧
      D.execute limit next (fun k => timing (k + 1)) s₁ = some (value, log', s') := by
  obtain ⟨s₁, _, rest⟩ := Option.bind_eq_some_iff.mp executed
  obtain ⟨⟨_, log', _⟩, ended, same⟩ := Option.map_eq_some_iff.mp rest
  cases same
  exact ⟨s₁, log', rfl, ended⟩

theorem execute_writes_some {ws : List (BitVec addrWidth × BitVec dataWidth)}
    {next : Program addrWidth dataWidth α} {timing : Nat → Timing addrWidth dataWidth} {s s' : S}
    {value : α} {log : List (Access addrWidth dataWidth)}
    (executed : D.execute limit (.writes ws next) timing s = some (value, log, s')) :
    ∃ s₁ log' timing', log = ws.map (fun w => .write w.1 w.2) ++ log' ∧
      D.execute limit next timing' s₁ = some (value, log', s') := by
  induction ws generalizing timing s log with
  | nil => exact ⟨s, log, timing, rfl, executed⟩
  | cons w ws ih =>
      obtain ⟨s₁, log₁, rfl, rest⟩ := execute_write_some executed
      obtain ⟨s₂, log₂, timing₂, rfl, ended⟩ := ih rest
      exact ⟨s₂, log₂, timing₂, rfl, ended⟩

theorem execute_read_some {addr : BitVec addrWidth}
    {next : BitVec dataWidth → Program addrWidth dataWidth α}
    {timing : Nat → Timing addrWidth dataWidth} {s s' : S} {value : α}
    {log : List (Access addrWidth dataWidth)}
    (executed : D.execute limit (.read addr next) timing s = some (value, log, s')) :
    ∃ word s₁ log', log = .read addr word :: log' ∧
      D.execute limit (next word) (fun k => timing (k + 1)) s₁ = some (value, log', s') := by
  obtain ⟨_, _, rest⟩ := Option.bind_eq_some_iff.mp executed
  obtain ⟨⟨word, s₁⟩, _, rest⟩ := Option.bind_eq_some_iff.mp rest
  obtain ⟨⟨_, log', _⟩, ended, same⟩ := Option.map_eq_some_iff.mp rest
  cases same
  exact ⟨word, s₁, log', rfl, ended⟩

theorem execute_words (Shown : BitVec dataWidth → Prop)
    (keeps : ∀ s i, Among s → Among (D.step s i))
    (shown : ∀ s word, Among s → D.response s = some word → Shown word)
    (p : Program addrWidth dataWidth α) {timing : Nat → Timing addrWidth dataWidth} {s s' : S}
    (among : Among s) {value : α} {log : List (Access addrWidth dataWidth)}
    (executed : D.execute limit p timing s = some (value, log, s')) :
    ∀ addr word, .read addr word ∈ log → Shown word := by
  induction p generalizing s timing log with
  | done value =>
      cases executed
      intro addr word member
      cases member
  | write addr word next ih =>
      obtain ⟨s₁, issued, rest⟩ := Option.bind_eq_some_iff.mp executed
      obtain ⟨⟨_, log', _⟩, ended, same⟩ := Option.map_eq_some_iff.mp rest
      cases same
      have among₁ := issue_among keeps (idle_among keeps among _) issued
      intro addr' word' member
      rcases List.mem_cons.mp member with first | later
      · cases first
      · exact ih among₁ ended addr' word' later
  | read addr next ih =>
      obtain ⟨s₁, issued, rest⟩ := Option.bind_eq_some_iff.mp executed
      obtain ⟨⟨word, s₂⟩, answered, rest⟩ := Option.bind_eq_some_iff.mp rest
      obtain ⟨⟨_, log', _⟩, ended, same⟩ := Option.map_eq_some_iff.mp rest
      cases same
      have among₁ := issue_among keeps (idle_among keeps among _) issued
      obtain ⟨among₂, response⟩ := await_among keeps among₁ answered
      intro addr' word' member
      rcases List.mem_cons.mp member with first | later
      · cases first
        exact shown s₂ _ among₂ response
      · exact ih word among₂ ended addr' word' later

end Executions
end Device

namespace Driver
variable {D : Device 6 32 S} {limit : Nat}

/-- The last pass of the loop; the others are `aluPoll_succ`. -/
theorem aluPoll_zero :
    aluPoll 0 = .read 0x04 fun status =>
      if status &&& aluStatusDone ≠ 0 then
        .read 0x14 fun result =>
          .done { rc := if status &&& aluStatusError = 0 then 0 else -1, result, status }
      else
        .read 0x14 fun result => .read 0x04 fun status => .done { rc := -2, result, status } := by
  rw [aluPoll]
  refine congrArg (Program.read _) (funext fun status => ?_)
  change (if _ then _ else _) = _
  split <;> rfl

/-- How a loop of at most `passes` passes can end: after some words of STATUS without
DONE, with one that has it, or without one, after the last pass. -/
def Ends (passes : Nat) (o : Outcome) (log : List (Access 6 32)) : Prop :=
  ∃ polls : List (BitVec 32), (∀ status ∈ polls, status &&& aluStatusDone = 0) ∧
    (polls.length < passes ∧ o.status &&& aluStatusDone ≠ 0 ∧
        o.rc = (if o.status &&& aluStatusError = 0 then 0 else -1) ∧
        log = polls.map (.read 0x04) ++ [.read 0x04 o.status, .read 0x14 o.result] ∨
      polls.length = passes ∧ o.rc = -2 ∧
        log = polls.map (.read 0x04) ++ [.read 0x14 o.result, .read 0x04 o.status])

theorem Ends.pass {passes : Nat} {o : Outcome} {log : List (Access 6 32)} {status : BitVec 32}
    (notDone : status &&& aluStatusDone = 0) (ends : Ends passes o log) :
    Ends (passes + 1) o (.read 0x04 status :: log) := by
  obtain ⟨polls, unfinished, early | late⟩ := ends
  · obtain ⟨short, done, rc, rfl⟩ := early
    exact ⟨status :: polls, List.forall_mem_cons.mpr ⟨notDone, unfinished⟩,
      Or.inl ⟨Nat.succ_lt_succ short, done, rc, rfl⟩⟩
  · obtain ⟨full, rc, rfl⟩ := late
    exact ⟨status :: polls, List.forall_mem_cons.mpr ⟨notDone, unfinished⟩,
      Or.inr ⟨congrArg Nat.succ full, rc, rfl⟩⟩

theorem aluPoll_ends (k : Nat) {timing : Nat → Timing 6 32} {s s' : S} {o : Outcome}
    {log : List (Access 6 32)}
    (executed : D.execute limit (aluPoll k) timing s = some (o, log, s')) :
    Ends (k + 1) o log := by
  induction k generalizing timing s log with
  | zero =>
      rw [aluPoll_zero] at executed
      obtain ⟨status, s₁, log₁, rfl, rest⟩ := Device.execute_read_some executed
      by_cases done : status &&& aluStatusDone ≠ 0
      · rw [if_pos done] at rest
        obtain ⟨result, s₂, log₂, rfl, ended⟩ := Device.execute_read_some rest
        cases ended
        exact ⟨[], by simp, Or.inl ⟨Nat.zero_lt_one, done, rfl, rfl⟩⟩
      · rw [if_neg done] at rest
        obtain ⟨result, s₂, log₂, rfl, rest'⟩ := Device.execute_read_some rest
        obtain ⟨status', s₃, log₃, rfl, ended⟩ := Device.execute_read_some rest'
        cases ended
        exact ⟨[status], by simpa using done, Or.inr ⟨rfl, rfl, rfl⟩⟩
  | succ k ih =>
      rw [aluPoll_succ] at executed
      obtain ⟨status, s₁, log₁, rfl, rest⟩ := Device.execute_read_some executed
      by_cases done : status &&& aluStatusDone ≠ 0
      · rw [if_pos done] at rest
        obtain ⟨result, s₂, log₂, rfl, ended⟩ := Device.execute_read_some rest
        cases ended
        exact ⟨[], by simp, Or.inl ⟨Nat.succ_pos _, done, rfl, rfl⟩⟩
      · rw [if_neg done] at rest
        exact (ih rest).pass (not_not.mp done)

/-- On every device that accepts and answers in bounded time, `alu_run` returns. It has
made its four writes in order and then read STATUS until it saw DONE or had looked a
million times; it returns `-2` just in the latter case, and otherwise `0` or `-1` by the
ERROR bit of the word in which it saw DONE, with the RESULT read next. -/
theorem alu_run_contract {Among : S → Prop} (obliging : D.Obliging limit Among) {s : S}
    (among : Among s) (timing : Nat → Timing 6 32) (a b opcode : BitVec 32) :
    ∃ o log s', D.execute limit (aluRun a b opcode) timing s =
        some (o, [.write 0x08 a, .write 0x0C b, .write 0x10 opcode, .write 0x00 1] ++ log, s') ∧
      Ends 1000000 o log := by
  obtain ⟨o, whole, s', executed⟩ := obliging.execute_returns (aluRun a b opcode) timing among
  rw [aluRun_eq] at executed ⊢
  obtain ⟨s₁, log, timing', rfl, rest⟩ := Device.execute_writes_some executed
  exact ⟨o, log, s', executed, aluPoll_ends (aluTimeout - 1) rest⟩

/-- A device that answers every read with zero, whatever is written. -/
def deaf : Device 6 32 Unit :=
  { step := fun _ _ => (), waitrequest := fun _ => false, response := fun _ => some 0 }

theorem alu_run_contract_deaf :
    ∃ o log s', deaf.execute 1 (aluRun 1 2 0) (fun _ => { gap := [], rest := .quiet }) () =
      some (o, log, s') ∧ o.rc = -2 := by
  have obliging : deaf.Obliging 1 fun _ => True :=
    { keeps := fun _ _ among => among
      accepts := fun _ _ _ => ⟨(), rfl⟩
      answers := fun _ _ _ _ _ _ => ⟨0, (), rfl⟩ }
  obtain ⟨o, log, s', executed, polls, _, early | late⟩ :=
    alu_run_contract obliging (s := ()) trivial (fun _ => { gap := [], rest := .quiet }) 1 2 0
  · obtain ⟨_, done, _, rfl⟩ := early
    have zero := Device.execute_words (fun word => word = 0) obliging.keeps
      (fun _ _ _ shown => (Option.some.inj shown).symm) _ trivial executed 0x04 o.status (by simp)
    exact absurd (by rw [zero]; rfl) done
  · exact ⟨o, _, s', executed, late.2.1⟩

end Driver
end AxiAlu
