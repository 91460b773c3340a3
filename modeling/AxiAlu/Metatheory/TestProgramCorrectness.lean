import AxiAlu.Metatheory.DriverCorrectness
import AxiAlu.Software.TestProgram

/-!
The test program on the peripheral. What a program returns in every state and at every
pace is put together from what its parts return, so nothing has to be known of the
timing between them.
-/
namespace AxiAlu
variable {addrWidth dataWidth : Nat} {α β : Type}

namespace Program

/-- The program returns this value in whatever state and at whatever pace it is
performed. -/
def Returns (p : Program addrWidth dataWidth α) (value : α) : Prop :=
  ∀ gaps inProgress ledger, (p.perform gaps inProgress ledger).1 = value

theorem Returns.done {value value' : α} (same : value = value') :
    (Program.done value : Program addrWidth dataWidth α).Returns value' :=
  fun _ _ _ => same

theorem perform_bind (p : Program addrWidth dataWidth α) (f : α → Program addrWidth dataWidth β)
    (gaps : Nat → Nat) (inProgress : Bool) (ledger : Ledger dataWidth) :
    ∃ gaps' inProgress' ledger', ((p.bind f).perform gaps inProgress ledger).1 =
      ((f (p.perform gaps inProgress ledger).1).perform gaps' inProgress' ledger').1 := by
  induction p generalizing gaps inProgress ledger with
  | done value => exact ⟨gaps, inProgress, ledger, rfl⟩
  | write addr word next ih => exact ih _ _ _
  | read addr next ih => exact ih _ _ _ _

theorem Returns.bind {p : Program addrWidth dataWidth α} {f : α → Program addrWidth dataWidth β}
    {value : α} {value' : β} (first : p.Returns value) (second : (f value).Returns value') :
    (p.bind f).Returns value' := by
  intro gaps inProgress ledger
  obtain ⟨gaps', inProgress', ledger', whole⟩ := perform_bind p f gaps inProgress ledger
  rw [whole, first]
  exact second gaps' inProgress' ledger'

end Program

namespace Driver
open AxiRegisterBank

theorem returns_aluRun (a b opcode : BitVec 32) :
    (aluRun a b opcode).Returns (promised a b opcode) := by
  intro gaps inProgress ledger
  obtain ⟨_, _, meaning⟩ := perform_aluRun a b opcode gaps inProgress ledger
  rw [meaning]

/-- A test case passes if the operation is one that fails, where an error is expected,
and otherwise if it is one that succeeds with the expected word. -/
theorem passes_promised (a b opcode expected : BitVec 32) (expectError : Bool) :
    passes expected expectError (promised a b opcode) = true ↔
      if expectError then (aluFunction (opcode.setWidth 4) a b).2 = true
      else aluFunction (opcode.setWidth 4) a b = (expected, false) := by
  rw [← report_aluFunction, passes]
  obtain ⟨word, error⟩ := aluFunction (opcode.setWidth 4) a b
  cases expectError <;> cases error <;> simp [report, aluStatusError]

theorem execute_returns {p : Program 6 32 α} {value : α} (returns : p.Returns value)
    (inp : Nat → Avalon 6 32) (t : Nat) (timing : Nat → Timing 6 32) {limit : Nat}
    (patient : 4 ≤ limit) :
    ∃ log s, AvalonAxi4LiteAlu.device.execute limit p timing (AvalonAxi4LiteAlu.machine.run inp t) =
      some (value, log, s) := by
  obtain ⟨s, _, executed, _⟩ := AvalonAxi4LiteAlu.execute_performs inp t p timing patient
  rw [returns] at executed
  exact ⟨_, s, executed⟩

theorem returns_testCase (name : String) (a b opcode expected : BitVec 32) (expectError : Bool) :
    (testCase name a b opcode expected expectError).Returns
      (resultLine name a b expected (promised a b opcode)
        (passes expected expectError (promised a b opcode))) :=
  (returns_aluRun a b opcode).bind (.done rfl)

/-- A test case prints the word and the status of its operation, and its verdict is
right: with an error expected it is PASS just for the operations that fail, and
otherwise just for those that succeed with the expected word. -/
theorem test_case_verdict (inp : Nat → Avalon 6 32) (t : Nat) (timing : Nat → Timing 6 32)
    (limit : Nat) (patient : 4 ≤ limit) (name : String) (a b opcode expected : BitVec 32)
    (expectError : Bool) :
    ∃ pass log s,
      AvalonAxi4LiteAlu.device.execute limit (testCase name a b opcode expected expectError)
          timing (AvalonAxi4LiteAlu.machine.run inp t) =
        some (resultLine name a b expected (promised a b opcode) pass, log, s) ∧
      (pass = true ↔ if expectError then (aluFunction (opcode.setWidth 4) a b).2 = true
        else aluFunction (opcode.setWidth 4) a b = (expected, false)) := by
  obtain ⟨log, s, executed⟩ := execute_returns
    (returns_testCase name a b opcode expected expectError) inp t timing patient
  exact ⟨_, log, s, executed, passes_promised a b opcode expected expectError⟩

/-- A subtraction that is told to expect an error, while a division is in progress. -/
theorem test_case_verdict_unexpected :
    (AvalonAxi4LiteAlu.device.execute 4 (testCase "SUB" 3 5 aluOpSub 0 true)
        (fun _ => { gap := [.quiet], rest := .quiet })
        (AvalonAxi4LiteAlu.machine.run divisionByZero 8)).map Prod.fst =
      some "SUB: A=3 B=5 result=4294967294 expected=0 status=0x00000002 FAIL\n" := by
  obtain ⟨pass, log, s, executed, verdict⟩ := test_case_verdict divisionByZero 8
    (fun _ => { gap := [.quiet], rest := .quiet }) 4 (by decide) "SUB" 3 5 aluOpSub 0 true
  obtain rfl : pass = false := by
    cases pass with
    | false => rfl
    | true => exact absurd (verdict.mp rfl) (by decide)
  refine (congrArg (Option.map Prod.fst) executed).trans (congrArg some ?_)
  change resultLine "SUB" 3 5 0 (promised 3 5 aluOpSub) false = _
  decide

/-- The whole test program, started in any state the peripheral can be in and at any
pace: it comes to its end, and this is what it has printed. -/
theorem main_prints (inp : Nat → Avalon 6 32) (t : Nat) (timing : Nat → Timing 6 32)
    (limit : Nat) (patient : 4 ≤ limit) :
    ∃ log s,
      AvalonAxi4LiteAlu.device.execute limit main timing (AvalonAxi4LiteAlu.machine.run inp t) =
        some (["AXI4-Lite ALU software test\n",
          "ALU base = 0x00011100\n",
          "ADD: A=20 B=7 result=27 expected=27 status=0x00000002 PASS\n",
          "SUB: A=20 B=7 result=13 expected=13 status=0x00000002 PASS\n",
          "MUL: A=20 B=7 result=140 expected=140 status=0x00000002 PASS\n",
          "DIV: A=20 B=5 result=4 expected=4 status=0x00000002 PASS\n",
          "DIV_BY_ZERO: A=20 B=0 result=0 expected=0 status=0x00000006 PASS\n",
          "Done\n"], log, s) := by
  refine execute_returns ?_ inp t timing patient
  have add := returns_testCase "ADD" 20 7 aluOpAdd 27 false
  have sub := returns_testCase "SUB" 20 7 aluOpSub 13 false
  have mul := returns_testCase "MUL" 20 7 aluOpMul 140 false
  have div := returns_testCase "DIV" 20 5 aluOpDiv 4 false
  have divByZero := returns_testCase "DIV_BY_ZERO" 20 0 aluOpDiv 0 true
  exact add.bind (sub.bind (mul.bind (div.bind (divByZero.bind (.done (by decide))))))

theorem main_prints_from_reset :
    ∃ printed log s,
      AvalonAxi4LiteAlu.device.execute 4 main (fun _ => { gap := [], rest := .quiet })
          (AvalonAxi4LiteAlu.machine.run (fun _ => .quiet) 0) = some (printed, log, s) ∧
      printed[6]? =
        some "DIV_BY_ZERO: A=20 B=0 result=0 expected=0 status=0x00000006 PASS\n" := by
  obtain ⟨log, s, executed⟩ :=
    main_prints (fun _ => .quiet) 0 (fun _ => { gap := [], rest := .quiet }) 4 (by decide)
  exact ⟨_, log, s, executed, rfl⟩

end Driver
end AxiAlu
