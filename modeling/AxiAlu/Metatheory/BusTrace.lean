import AxiAlu.Clocked.Sequential
import AxiAlu.Metatheory.BusReads

/-!
The bus as a whole. The responses of a run are the answers of a sequential peripheral
to the accepted commands, and what the pins show depends on nothing else: neither on
what the lines carry when no command is accepted, nor, for a master that leaves an
operation one more command's time, on when the commands come.
-/
namespace AxiAlu
open Clocked AxiRegisterBank
variable {addrWidth dataWidth : Nat}

/-- The peripheral as it is seen by one command after another. The flag of a command
tells that it follows a start so closely that it meets the operation in progress. -/
def commandOrder : Sequential (Registers dataWidth × List (BitVec dataWidth × Bool))
    (Command addrWidth dataWidth × Bool) (BitVec dataWidth) :=
  { start := (Registers.zero, [])
    take := fun ledger c => c.1.write?.elim ledger (Registers.record ledger)
    answer := fun ledger c =>
      c.1.read?.map fun addr =>
        Engine.read { regs := ledger.1, ops := ledger.2, wait := c.2.toNat } addr }

/-- An engine shows whether it is waiting, not for how long. -/
theorem Engine.read_wait {e e' : Engine dataWidth} (regs : e.regs = e'.regs)
    (ops : e.ops = e'.ops) (wait : e.wait ≠ 0 ↔ e'.wait ≠ 0) (addr : BitVec addrWidth) :
    e.read addr = e'.read addr := by
  have free : (e.wait = 0) = (e'.wait = 0) := propext (not_iff_not.mp wait)
  simp only [read, status, result, regs, ops, free]

namespace commandOrder

theorem after_eq (cs : List (Command addrWidth dataWidth × Bool)) :
    commandOrder.after cs =
      (Registers.after (cs.filterMap fun c => c.1.write?),
        operations (cs.filterMap fun c => c.1.write?)) := by
  rw [Registers.after, operations, ← Registers.foldl_record_fst (Registers.zero, [])]
  refine Eq.trans ?_ (Prod.mk.eta).symm
  rw [List.foldl_filterMap]
  refine congrFun (congrFun (congrArg List.foldl ?_) _) cs
  funext ledger c
  obtain ⟨command, flag⟩ := c
  cases command <;> rfl

/-- Only STATUS and RESULT show an operation in progress. -/
theorem answer_calm {c : Command addrWidth dataWidth × Bool}
    (calm : c.2 = true → c.1 ≠ .read addrStatus ∧ c.1 ≠ .read addrResult)
    (ledger : Registers dataWidth × List (BitVec dataWidth × Bool)) :
    commandOrder.answer ledger (c.1, false) = commandOrder.answer ledger c := by
  obtain ⟨command, flag⟩ := c
  cases flag with
  | false => rfl
  | true =>
      cases command with
      | write w => rfl
      | read addr =>
          obtain ⟨status, result⟩ := calm rfl
          have notStatus : addr ≠ addrStatus := fun same => status (congrArg Command.read same)
          have notResult : addr ≠ addrResult := fun same => result (congrArg Command.read same)
          have shown : ∀ wait,
              Engine.read { regs := ledger.1, ops := ledger.2, wait := wait } addr =
                ledger.1.read addr := fun wait => Engine.read_regs _ notStatus notResult
          exact congrArg some ((shown 0).trans (shown 1).symm)

end commandOrder

theorem Accelerator.step_ignores {x : Accelerator addrWidth dataWidth} (busy : x.phase ≠ .idle)
    (i i' : Avalon addrWidth dataWidth) : x.step i = x.step i' := by
  rw [step, step]
  cases phase : x.phase with
  | idle => exact absurd phase busy
  | posted _ | buffered _ | pulsing _ | asked _ | sampling _ | returning _ => rfl

theorem AvalonAxi4LiteBridge.step_keeps_readdata {s : AvalonAxi4LiteBridge addrWidth dataWidth}
    (i : Input addrWidth dataWidth) (silent : s.rFire i = false) :
    (s.step i).avsReaddata = s.avsReaddata := by
  cases state : s.stateQ with
  | idle =>
      cases write : i.avs.avsWrite with
      | true => rw [step_idle_write i state write]
      | false =>
          cases read : i.avs.avsRead with
          | true => rw [step_idle_read i state write read]
          | false => rw [step_idle_quiet i state write read]
  | write => rw [step_write i state]
  | writeResp =>
      rw [step_writeResp i state]
      split <;> rfl
  | readAddr => rw [step_readAddr i state]
  | readData =>
      have none : i.mAxiRvalid = false := by simpa [rFire, mAxiRready, state] using silent
      rw [step_readData i state, none]
      rfl

namespace AvalonAxi4LiteAlu
section Runs
variable (inp : Nat → Avalon addrWidth dataWidth)

def startedFourBefore (n : Nat) : Bool :=
  decide (4 ≤ n) && ((acceptedAt inp (n - 4)).bind Command.write?).any Write.isStart

/-- The accepted command of a cycle with the flag of its place in time. -/
def commandAt (n : Nat) : Option (Command addrWidth dataWidth × Bool) :=
  (acceptedAt inp n).map fun command => (command, startedFourBefore inp n)

theorem startedFourBefore_iff (n : Nat) : startedFourBefore inp n = true ↔ JustStarted inp n := by
  rw [justStarted_iff, Accelerator.JustStarted, ← acceptedAt_eq, startedFourBefore,
    Bool.and_eq_true, decide_eq_true_eq]
  constructor
  · rintro ⟨late, started⟩
    cases accepted : acceptedAt inp (n - 4) with
    | none => simp [accepted] at started
    | some command =>
        cases command with
        | write w =>
            exact ⟨n - 4, w, by omega, accepted, by simpa [accepted, Command.write?] using started⟩
        | read addr => simp [accepted, Command.write?] at started
  · rintro ⟨m, w, rfl, accepted, isStart⟩
    refine ⟨Nat.le_add_left 4 m, ?_⟩
    rw [Nat.add_sub_cancel, accepted]
    exact isStart

theorem after_commands (n : Nat) :
    commandOrder.after (history (commandAt inp) n) =
      (Registers.after (writesBefore inp n), operations (writesBefore inp n)) := by
  have writes : (history (commandAt inp) n).filterMap (fun c => c.1.write?) =
      writesBefore inp n := by
    rw [writesBefore, history_filterMap, history_filterMap]
    congr 1
    funext c
    rw [commandAt]
    cases acceptedAt inp c <;> rfl
  rw [commandOrder.after_eq, writes]

theorem responseAt_late (n : Nat) :
    responseAt inp (n + 4) =
      (commandAt inp n).bind
        (commandOrder.answer (commandOrder.after (history (commandAt inp) n))) := by
  have silent : (∀ addr, acceptedAt inp n ≠ some (.read addr)) → responseAt inp (n + 4) = none := by
    intro noRead
    apply Option.not_isSome_iff_eq_none.mp
    intro responds
    obtain ⟨m, addr, same, accepted⟩ := (responds_iff inp (n + 4)).mp responds
    obtain rfl : n = m := by omega
    exact noRead addr accepted
  rw [after_commands, commandAt]
  cases accepted : acceptedAt inp n with
  | none => exact silent (by simp [accepted])
  | some command =>
      cases command with
      | write w => exact silent (by simp [accepted])
      | read addr =>
          obtain ⟨regs, ops, wait⟩ := sampled_engine inp accepted
          rw [response_of_read inp accepted]
          refine congrArg some (Engine.read_wait regs ops ?_ addr)
          rw [wait, ← startedFourBefore_iff]
          cases startedFourBefore inp n <;> simp

theorem responseAt_early {c : Nat} (early : c < 4) : responseAt inp c = none := by
  apply Option.not_isSome_iff_eq_none.mp
  intro responds
  obtain ⟨n, addr, late, _⟩ := (responds_iff inp c).mp responds
  omega

theorem responses_eq (t : Nat) :
    history (responseAt inp) (t + 4) = commandOrder.answers (history (commandAt inp) t) :=
  commandOrder.history_answers 4 (fun _ early => responseAt_early inp early) (responseAt_late inp) t

/-- No read of STATUS or RESULT before cycle `t` was accepted exactly four cycles after
a start. -/
def Calm (t : Nat) : Prop :=
  ∀ n, n < t → JustStarted inp n →
    acceptedAt inp n ≠ some (.read addrStatus) ∧ acceptedAt inp n ≠ some (.read addrResult)

theorem Calm.history {t : Nat} (calm : Calm inp t) :
    commandOrder.answers ((history (acceptedAt inp) t).map fun command => (command, false)) =
      commandOrder.answers (history (commandAt inp) t) := by
  have unflagged : (Clocked.history (acceptedAt inp) t).map (fun command => (command, false)) =
      (Clocked.history (commandAt inp) t).map fun c => (c.1, false) := by
    rw [history_map, history_map]
    congr 1
    funext n
    rw [commandAt]
    cases acceptedAt inp n <;> rfl
  rw [unflagged]
  refine commandOrder.answersFrom_map (f := fun c => (c.1, false)) (fun _ _ => rfl)
    (fun c member ledger => ?_) _
  refine commandOrder.answer_calm (fun flag => ?_) ledger
  obtain ⟨n, before, at_n⟩ := mem_history.mp member
  obtain ⟨command, accepted, rfl⟩ := Option.map_eq_some_iff.mp at_n
  obtain ⟨status, result⟩ := calm n before ((startedFourBefore_iff inp n).mp flag)
  rw [accepted] at status result
  exact ⟨fun same => status (congrArg some same), fun same => result (congrArg some same)⟩

/-- In every run the responses are the answers of the sequential peripheral to the
accepted commands, each with the flag of its place in time; and for masters that read
neither STATUS nor RESULT exactly four cycles after a start, the order of the accepted
commands alone fixes them: two such runs with the same commands have the same
responses, however the commands are spread over the cycles. -/
theorem responses_of_commands (inp inp' : Nat → Avalon addrWidth dataWidth) :
    (∀ t, history (responseAt inp) (t + 4) =
      commandOrder.answers (history (commandAt inp) t)) ∧
    ∀ t t', Calm inp t → Calm inp' t' →
      history (acceptedAt inp) t = history (acceptedAt inp') t' →
      history (responseAt inp) (t + 4) = history (responseAt inp') (t' + 4) := by
  refine ⟨responses_eq inp, fun t t' calm calm' same => ?_⟩
  rw [responses_eq, responses_eq, ← calm.history, ← calm'.history, same]

/-- Between two responses the word of the first one stands on the bus. -/
theorem avsReaddata_latest (t : Nat) :
    (machine.run inp t).avsReaddata = (history (responseAt inp) (t + 1)).getLast?.getD 0 := by
  induction t with
  | zero => rfl
  | succ t ih =>
      cases valid : (machine.run inp (t + 1)).avsReaddatavalid with
      | true =>
          have response : responseAt inp (t + 1) = some (machine.run inp (t + 1)).avsReaddata :=
            if_pos valid
          rw [history_succ_some response, List.getLast?_concat, Option.getD_some]
      | false =>
          have silent : responseAt inp (t + 1) = none := if_neg (Bool.not_eq_true _ ▸ valid)
          rw [history_succ_none silent, ← ih]
          refine AvalonAxi4LiteBridge.step_keeps_readdata _ ?_
          rwa [← AvalonAxi4LiteBridge.step_avsReaddatavalid]

/-- Two runs accept the same, and stand for the same accelerator, if the lines carry the
same command in the cycles in which one of them is free. -/
theorem runAt_eq {inp inp' : Nat → Avalon addrWidth dataWidth}
    (same : ∀ t, (machine.run inp t).avsWaitrequest = false → (inp t).command = (inp' t).command)
    (t : Nat) : Accelerator.runAt inp t = Accelerator.runAt inp' t := by
  induction t with
  | zero => rfl
  | succ t ih =>
      change (Accelerator.runAt inp t).step (inp t) = (Accelerator.runAt inp' t).step (inp' t)
      rw [← ih]
      by_cases idle : (Accelerator.runAt inp t).phase = .idle
      · have free : (machine.run inp t).avsWaitrequest = false := by
          rw [waitrequest_eq, idle]
          rfl
        rw [Accelerator.step, Accelerator.step, same t free]
      · exact Accelerator.step_ignores idle (inp t) (inp' t)

/-- What the lines carry when no command is accepted cannot be told from outside, in no
cycle and by no pin: not from the other lines of a command, such as the write data of a
read, not from anything while waitrequest is up. -/
theorem unaccepted_lines_invisible (inp inp' : Nat → Avalon addrWidth dataWidth)
    (same : ∀ t, (machine.run inp t).avsWaitrequest = false → (inp t).command = (inp' t).command)
    (t : Nat) :
    (machine.run inp t).avsWaitrequest = (machine.run inp' t).avsWaitrequest ∧
      (machine.run inp t).avsReaddatavalid = (machine.run inp' t).avsReaddatavalid ∧
      (machine.run inp t).avsReaddata = (machine.run inp' t).avsReaddata := by
  have responses : responseAt inp = responseAt inp' := by
    funext c
    rw [responseAt_eq, responseAt_eq, runAt_eq same]
  refine ⟨?_, ?_, ?_⟩
  · rw [waitrequest_eq, waitrequest_eq, runAt_eq same]
  · have valid : ∀ inp : Nat → Avalon addrWidth dataWidth,
        (machine.run inp t).avsReaddatavalid = (responseAt inp t).isSome :=
      fun inp => (isSome_observe (fun c => (machine.run inp c).avsReaddatavalid) _ t).symm
    rw [valid, valid, responses]
  · rw [avsReaddata_latest, avsReaddata_latest, responses]

end Runs

/-- An addition of zeros is started in one cycle, and STATUS is read in another. -/
def startThenRead (start read : Nat) (c : Nat) : Avalon 6 32 :=
  if c = start then Command.lines .quiet (.write { addr := 0x00, data := 1, strb := 0b0001 })
  else if c = read then Command.lines .quiet (.read 0x04)
  else .quiet

theorem responses_of_commands_spread :
    history (responseAt (startThenRead 2 11)) 16 = [2#32] := by
  have calm : ∀ start read t, (∀ n, n < t → startedFourBefore (startThenRead start read) n = true →
      acceptedAt (startThenRead start read) n = none) → Calm (startThenRead start read) t := by
    intro start read t quiet n before started
    rw [quiet n before ((startedFourBefore_iff _ n).mpr started)]
    exact ⟨nofun, nofun⟩
  have law := responses_of_commands (startThenRead 2 11) (startThenRead 0 5)
  refine (law.2 12 6 (calm 2 11 12 (by decide)) (calm 0 5 6 (by decide)) (by decide)).trans ?_
  decide

/-- A read of B; while it is in progress the lines carry something else. -/
def readOfB : Nat → Avalon 6 32
  | 0 => Command.lines .quiet (.read 0x0C)
  | _ => .quiet
def readOfBNoisy : Nat → Avalon 6 32
  | 0 => { readOfB 0 with avsWritedata := 0xFFFFFFFF, avsByteenable := 0b1111 }
  | 1 => Command.lines .quiet (.write { addr := 0x0C, data := 5, strb := 0b1111 })
  | 3 => Command.lines .quiet (.write { addr := 0x00, data := 1, strb := 0b1111 })
  | t => readOfB t

theorem unaccepted_lines_invisible_noisy :
    (machine.run readOfB 9).avsWaitrequest = (machine.run readOfBNoisy 9).avsWaitrequest ∧
      (machine.run readOfB 9).avsReaddatavalid =
        (machine.run readOfBNoisy 9).avsReaddatavalid ∧
      (machine.run readOfB 9).avsReaddata = (machine.run readOfBNoisy 9).avsReaddata := by
  refine unaccepted_lines_invisible readOfB readOfBNoisy (fun t free => ?_) 9
  match t with
  | 0 => rfl
  | 1 => exact absurd free (by decide)
  | 2 => rfl
  | 3 => exact absurd free (by decide)
  | t + 4 => rfl

end AvalonAxi4LiteAlu
end AxiAlu
