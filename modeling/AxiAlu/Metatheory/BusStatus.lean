import AxiAlu.Metatheory.BusReads

/-!
STATUS and RESULT over the bus. Both tell of the latest start command accepted
before the read, except for one read: the one accepted in the first cycle in which
the bus is free after that start. That read still finds the operation in progress.
-/
namespace AxiAlu.AvalonAxi4LiteAlu
open Clocked AxiRegisterBank
variable {addrWidth dataWidth : Nat}

section Runs
variable (inp : Nat → Avalon addrWidth dataWidth)

theorem operations_of_justStarted {n : Nat} (just : JustStarted inp n) :
    operations (writesBefore inp n) ≠ [] := by
  obtain ⟨_, w, _, _, isStart, latest⟩ := just
  obtain ⟨earlier, split⟩ := List.getLast?_eq_some_iff.mp latest
  have writes : writesBefore inp n = earlier.filterMap Command.write? ++ [w] := by
    rw [writesBefore, split, List.filterMap_append]
    rfl
  rw [writes, operations_append_start _ isStart]
  simp

theorem status_word (legal : LegalWidths addrWidth dataWidth) {n : Nat}
    (accepted : acceptedAt inp n = some (.read addrStatus)) :
    ∃ e : Engine dataWidth, responseAt inp (n + 4) = some (e.status.setWidth dataWidth) ∧
      e.ops = operations (writesBefore inp n) ∧ (e.wait ≠ 0 ↔ JustStarted inp n) := by
  obtain ⟨_, ops, wait⟩ := sampled_engine inp accepted
  refine ⟨_, ?_, ops, wait⟩
  rw [response_of_read inp accepted, Engine.read_status _ legal]

theorem result_word (legal : LegalWidths addrWidth dataWidth) {n : Nat}
    (accepted : acceptedAt inp n = some (.read addrResult)) :
    ∃ e : Engine dataWidth, responseAt inp (n + 4) = some e.result ∧
      e.ops = operations (writesBefore inp n) ∧ (e.wait ≠ 0 ↔ JustStarted inp n) := by
  obtain ⟨_, ops, wait⟩ := sampled_engine inp accepted
  refine ⟨_, ?_, ops, wait⟩
  rw [response_of_read inp accepted, Engine.read_result _ legal]

end Runs

/-- A read of STATUS returns 0 before the first start command, 1 when the latest
command is a start accepted exactly four cycles before, and otherwise DONE with the
error of the latest start; a read of RESULT returns the result of the latest start,
or of the one before it in that same case. -/
theorem status_and_result (legal : LegalWidths addrWidth dataWidth)
    (inp : Nat → Avalon addrWidth dataWidth) (n : Nat) :
    let ops := operations (writesBefore inp n)
    ops.length = (writesBefore inp n).countP Write.isStart ∧
    (acceptedAt inp n = some (.read addrStatus) →
      ∃ word, responseAt inp (n + 4) = some word ∧
        (ops = [] → word = 0) ∧
        (JustStarted inp n → word = 1) ∧
        (¬ JustStarted inp n → ∀ res err, ops.getLast? = some (res, err) →
          word = (BitVec.ofBool err ++ 0b10#2).setWidth dataWidth)) ∧
    (acceptedAt inp n = some (.read addrResult) →
      ∃ word, responseAt inp (n + 4) = some word ∧
        (JustStarted inp n → word = published ops.dropLast) ∧
        (¬ JustStarted inp n → word = published ops)) := by
  intro ops
  refine ⟨operations_length _, ?_, ?_⟩
  · intro accepted
    obtain ⟨e, response, recorded, wait⟩ := status_word inp legal accepted
    refine ⟨_, response, ?_, ?_, ?_⟩
    · intro none
      have free : e.wait = 0 := by
        by_contra waiting
        exact operations_of_justStarted inp (wait.mp waiting) none
      rw [e.status_never free (recorded.trans none)]
      simp
    · intro just
      rw [e.status_waiting (wait.mpr just)]
      apply BitVec.eq_of_toNat_eq
      simp
    · intro finished res err last
      have free : e.wait = 0 := by
        by_contra waiting
        exact finished (wait.mp waiting)
      rw [e.status_published free ((congrArg List.getLast? recorded).trans last)]
  · intro accepted
    obtain ⟨e, response, recorded, wait⟩ := result_word inp legal accepted
    refine ⟨_, response, ?_, ?_⟩
    · intro just
      rw [e.result_waiting (wait.mpr just), recorded]
    · intro finished
      have free : e.wait = 0 := by
        by_contra waiting
        exact finished (wait.mp waiting)
      rw [e.result_published free, recorded]

/-- A division by zero is started, and STATUS is read at once and once more. -/
def pollTwice : Nat → Avalon 6 32
  | 0 => Command.lines .quiet (.write { addr := 0x10, data := 3, strb := 0b1111 })
  | 4 => Command.lines .quiet (.write { addr := 0x00, data := 1, strb := 0b0001 })
  | 8 => Command.lines .quiet (.read 0x04)
  | 12 => Command.lines .quiet (.read 0x04)
  | _ => .quiet

theorem status_and_result_poll :
    responseAt pollTwice 12 = some 1#32 ∧ responseAt pollTwice 16 = some 6#32 := by
  have early := (status_and_result legalWidths_default pollTwice 8).2.1 (by decide)
  have late := (status_and_result legalWidths_default pollTwice 12).2.1 (by decide)
  obtain ⟨word, response, _, just, _⟩ := early
  obtain ⟨word', response', _, _, finished⟩ := late
  constructor
  · have started : JustStarted pollTwice 8 :=
      ⟨4, { addr := 0x00, data := 1, strb := 0b0001 }, rfl, by decide, by decide, by decide⟩
    rw [response, just started]
    decide
  · have ended : ¬ JustStarted pollTwice 12 := by
      intro started
      obtain ⟨m, w, hm, accepted, _⟩ := started
      obtain rfl : m = 8 := by omega
      rw [show acceptedAt pollTwice 8 = some (.read 0x04#6) by decide] at accepted
      cases accepted
    rw [response', finished ended 0#32 true (by decide)]
    decide

end AxiAlu.AvalonAxi4LiteAlu
