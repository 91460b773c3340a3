import AxiAlu.Metatheory.ByteLanes
import AxiAlu.Metatheory.ProgramMeaning

/-!
The driver on the peripheral, end to end. The argument runs on what the driver means,
where an access is one rule, and is carried to the peripheral by the refinement.
Nothing is assumed of what the peripheral was doing before: the first access waits
for the bus, and the start finds the engine free.
-/
namespace AxiAlu

namespace Program
variable {addrWidth dataWidth : Nat} {α : Type}

theorem perform_writes (ws : List (BitVec addrWidth × BitVec dataWidth))
    (next : Program addrWidth dataWidth α) (gaps : Nat → Nat) (inProgress : Bool)
    (ledger : Ledger dataWidth) :
    ∃ gaps' inProgress',
      let rest := next.perform gaps' inProgress'
        ((ws.map fun w => Write.whole w.1 w.2).foldl Registers.record ledger)
      (writes ws next).perform gaps inProgress ledger =
        (rest.1, ws.map (fun w => .write w.1 w.2) ++ rest.2.1, rest.2.2) := by
  induction ws generalizing gaps inProgress ledger with
  | nil => exact ⟨gaps, inProgress, rfl⟩
  | cons w ws ih =>
      obtain ⟨gaps', inProgress', rest⟩ := ih (fun k => gaps (k + 1))
        ((Write.whole w.1 w.2).isStart && decide (gaps 1 ≤ 3))
        (Registers.record ledger (Write.whole w.1 w.2))
      refine ⟨gaps', inProgress', ?_⟩
      rw [writes, perform, rest]
      rfl

end Program

namespace Driver
open Clocked AxiRegisterBank

/-- What a caller of `alu_run` is to get. -/
def promised (a b opcode : BitVec 32) : Outcome :=
  match opcode.toNat % 16 with
  | 0 => { rc := 0, result := a + b, status := 2 }
  | 1 => { rc := 0, result := a - b, status := 2 }
  | 2 => { rc := 0, result := a * b, status := 2 }
  | 3 =>
      if b = 0 then { rc := -1, result := 0, status := 6 }
      else { rc := 0, result := a / b, status := 2 }
  | _ => { rc := -1, result := 0, status := 6 }

/-- The outcome that the driver makes of a published operation. -/
def report (op : BitVec 32 × Bool) : Outcome :=
  { rc := if op.2 then -1 else 0
    result := op.1
    status := (BitVec.ofBool op.2 ++ 0b10#2).setWidth 32 }

theorem report_success (word : BitVec 32) :
    report (word, false) = { rc := 0, result := word, status := 2 } := by
  simp [report]

theorem report_failure (word : BitVec 32) :
    report (word, true) = { rc := -1, result := word, status := 6 } := by
  simp [report]

theorem report_aluFunction (a b opcode : BitVec 32) :
    report (aluFunction (opcode.setWidth 4) a b) = promised a b opcode := by
  have nibble : (opcode.setWidth 4).toNat = opcode.toNat % 16 := BitVec.toNat_setWidth _ _
  rw [aluFunction, promised, nibble]
  generalize opcode.toNat % 16 = op
  obtain _ | _ | _ | _ | op := op
  · exact report_success _
  · exact report_success _
  · exact report_success _
  · by_cases hb : b = 0
    · simp only [hb, if_true]
      exact report_failure 0
    · simp only [hb, if_false]
      exact report_success _
  · exact report_failure 0

def setup (a b opcode : BitVec 32) : List (BitVec 6 × BitVec 32) :=
  [(0x08, a), (0x0C, b), (0x10, opcode), (0x00, 1)]

theorem aluRun_eq (a b opcode : BitVec 32) :
    aluRun a b opcode = .writes (setup a b opcode) (aluPoll (aluTimeout - 1)) := rfl

/-- A pass of the loop: STATUS, and then RESULT if DONE was set. -/
theorem aluPoll_succ (k : Nat) :
    aluPoll (k + 1) = .read 0x04 fun status =>
      if status &&& aluStatusDone ≠ 0 then
        .read 0x14 fun result =>
          .done { rc := if status &&& aluStatusError = 0 then 0 else -1, result, status }
      else aluPoll k := by
  rw [aluPoll]
  refine congrArg (Program.read _) (funext fun status => ?_)
  change (if _ then _ else _) = _
  split <;> rfl

theorem report_status_done (op : BitVec 32 × Bool) :
    (report op).status &&& aluStatusDone ≠ 0 := by
  cases h : op.2 <;> simp only [report, h] <;> decide

theorem report_status_error (op : BitVec 32 × Bool) :
    (if (report op).status &&& aluStatusError = 0 then (0 : Int) else -1) = (report op).rc := by
  cases h : op.2 <;> simp only [report, h] <;> decide

section Polls
variable {ledger : Ledger 32} {op : BitVec 32 × Bool} (last : ledger.2.getLast? = some op)
include last

/-- A finished operation is read as it is reported, an unfinished one as BUSY. -/
theorem read_status (inProgress : Bool) :
    ledger.read inProgress (0x04 : BitVec 6) = if inProgress then 1 else (report op).status := by
  refine (Engine.read_status _ legalWidths_default).trans ?_
  cases inProgress with
  | true =>
      rw [Engine.status_waiting _ Nat.one_ne_zero]
      rfl
  | false =>
      rw [Engine.status_published _ rfl last]
      rfl

theorem read_result : ledger.read false (0x14 : BitVec 6) = (report op).result := by
  refine (Engine.read_result _ legalWidths_default).trans ?_
  rw [Engine.result_published _ rfl, published, last]
  rfl

theorem perform_lastPoll (k : Nat) (gaps : Nat → Nat) :
    (aluPoll (k + 1)).perform gaps false ledger =
      (report op, [.read 0x04 (report op).status, .read 0x14 (report op).result], ledger) := by
  rw [aluPoll_succ]
  simp only [Program.perform, read_status last, Bool.false_eq_true, if_false]
  rw [if_pos (report_status_done op)]
  simp only [Program.perform, read_result last, report_status_error]

/-- The loop ends in its first pass, or in its second one when the first finds the
operation in progress. -/
theorem perform_aluPoll (k : Nat) (gaps : Nat → Nat) (inProgress : Bool) :
    ∃ polls, (polls = [] ∨ polls = [.read 0x04 1]) ∧
      (aluPoll (k + 2)).perform gaps inProgress ledger =
        (report op, polls ++ [.read 0x04 (report op).status, .read 0x14 (report op).result],
          ledger) := by
  cases inProgress with
  | false => exact ⟨[], .inl rfl, perform_lastPoll last (k + 1) gaps⟩
  | true =>
      refine ⟨[.read 0x04 1], .inr rfl, ?_⟩
      rw [aluPoll_succ]
      simp only [Program.perform, read_status last, if_true]
      rw [if_neg (by decide), perform_lastPoll last k]
      rfl

end Polls

section WholeWords
variable (r : Registers 32) (addr : BitVec 6) (word : BitVec 32)

theorem write_whole_a :
    (r.write (Write.whole addr word)).a = if addr = addrA then word else r.a := by
  rw [Registers.write_a legalWidths_default, Write.whole, mergeLanes_full (by decide)]

theorem write_whole_b :
    (r.write (Write.whole addr word)).b = if addr = addrB then word else r.b := by
  rw [Registers.write_b legalWidths_default, Write.whole, mergeLanes_full (by decide)]

theorem write_whole_opcode :
    (r.write (Write.whole addr word)).opcode =
      if addr = addrOpcode then word.setWidth 4 else r.opcode := by
  rw [Registers.write_opcode legalWidths_default]
  by_cases hit : addr = addrOpcode <;> simp [Write.hitsLane, Write.whole, hit]

end WholeWords

theorem setup_registers (r : Registers 32) (a b opcode : BitVec 32) :
    (((r.write (Write.whole (0x08 : BitVec 6) a)).write (Write.whole (0x0C : BitVec 6) b)).write
      (Write.whole (0x10 : BitVec 6) opcode)).outcome = aluFunction (opcode.setWidth 4) a b := by
  have distinct : (0x0C : BitVec 6) ≠ addrA ∧ (0x10 : BitVec 6) ≠ addrA ∧
      (0x10 : BitVec 6) ≠ addrB := by decide
  have atA : (0x08 : BitVec 6) = addrA := rfl
  have atB : (0x0C : BitVec 6) = addrB := rfl
  have atOpcode : (0x10 : BitVec 6) = addrOpcode := rfl
  rw [Registers.outcome, write_whole_opcode, if_pos atOpcode]
  congr 1
  · rw [write_whole_a, if_neg distinct.2.1, write_whole_a, if_neg distinct.1, write_whole_a,
      if_pos atA]
  · rw [write_whole_b, if_neg distinct.2.2, write_whole_b, if_pos atB]

/-- The four writes enter the operation that was asked for in the ledger. -/
theorem setup_ledger (l : Registers 32 × List (BitVec 32 × Bool)) (a b opcode : BitVec 32) :
    (((setup a b opcode).map fun w => Write.whole w.1 w.2).foldl Registers.record l).2.getLast? =
      some (aluFunction (opcode.setWidth 4) a b) := by
  have start : (Write.whole (0x00 : BitVec 6) (1 : BitVec 32)).isStart = true := by decide
  simp only [setup, List.map_cons, List.map_nil, List.foldl_cons, List.foldl_nil,
    Registers.record, start, if_true, List.getLast?_concat, setup_registers]

/-- What `alu_run` means: the outcome that it promises, after the four writes and at
most one pass of its loop that finds the operation in progress. -/
theorem perform_aluRun (a b opcode : BitVec 32) (gaps : Nat → Nat) (inProgress : Bool)
    (ledger : Ledger 32) :
    ∃ polls, (polls = [] ∨ polls = [.read 0x04 1]) ∧
      (aluRun a b opcode).perform gaps inProgress ledger =
        (promised a b opcode,
          [.write 0x08 a, .write 0x0C b, .write 0x10 opcode, .write 0x00 1] ++
            (polls ++ [.read 0x04 (promised a b opcode).status,
              .read 0x14 (promised a b opcode).result]),
          ((setup a b opcode).map fun w => Write.whole w.1 w.2).foldl Registers.record ledger) := by
  obtain ⟨gaps', inProgress', written⟩ :=
    Program.perform_writes (setup a b opcode) (aluPoll (aluTimeout - 1)) gaps inProgress ledger
  obtain ⟨polls, short, polled⟩ :=
    perform_aluPoll (setup_ledger ledger a b opcode) (aluTimeout - 3) gaps' inProgress'
  rw [report_aluFunction] at polled
  refine ⟨polls, short, ?_⟩
  rw [aluRun_eq, written, show aluTimeout - 1 = aluTimeout - 3 + 2 from rfl, polled]
  rfl

/-- From any state that the peripheral can reach, whatever idle cycles stand before
each access: `alu_run` returns what it promises, after at most one pass of its loop
that finds the operation in progress, and no access waits for four cycles. -/
theorem alu_run_correct (inp : Nat → Avalon 6 32) (t : Nat) (timing : Nat → Timing 6 32)
    (limit : Nat) (patient : 4 ≤ limit) (a b opcode : BitVec 32) :
    ∃ polls s, (polls = [] ∨ polls = [.read 0x04 1]) ∧
      AvalonAxi4LiteAlu.device.execute limit (aluRun a b opcode) timing
          (AvalonAxi4LiteAlu.machine.run inp t) =
        some (promised a b opcode,
          [.write 0x08 a, .write 0x0C b, .write 0x10 opcode, .write 0x00 1] ++
            (polls ++ [.read 0x04 (promised a b opcode).status,
              .read 0x14 (promised a b opcode).result]), s) := by
  obtain ⟨s, _, executed, _⟩ :=
    AvalonAxi4LiteAlu.execute_performs inp t (aluRun a b opcode) timing patient
  obtain ⟨polls, short, meaning⟩ := perform_aluRun a b opcode
    (fun k => (timing k).gap.length) _ (Accelerator.runAt inp t).ledger
  rw [meaning] at executed
  exact ⟨polls, s, short, executed⟩

/-- A division by zero is started, and in cycle 8 it is in progress. -/
def divisionByZero : Nat → Avalon 6 32
  | 0 => Command.lines .quiet (.write { addr := 0x10, data := 3, strb := 0b1111 })
  | 4 => Command.lines .quiet (.write { addr := 0x00, data := 1, strb := 0b0001 })
  | _ => .quiet

theorem alu_run_correct_after_division :
    (AvalonAxi4LiteAlu.device.execute 4 (aluRun 20 5 3)
        (fun _ => { gap := [], rest := .quiet })
        (AvalonAxi4LiteAlu.machine.run divisionByZero 8)).map Prod.fst =
      some { rc := 0, result := 4, status := 2 } := by
  obtain ⟨polls, s, _, executed⟩ := alu_run_correct divisionByZero 8
    (fun _ => { gap := [], rest := .quiet }) 4 (by decide) 20 5 3
  have returned : promised 20 5 3 = { rc := 0, result := 4, status := 2 } := by decide
  rw [executed, ← returned]
  rfl

end Driver
end AxiAlu
