import AxiAlu.Metatheory.BankAluOperations
import AxiAlu.Metatheory.ByteLanes
import AxiAlu.Metatheory.SlaveReadChannel
import AxiAlu.Metatheory.SlaveWriteChannel
import AxiAlu.Rtl.SlaveBankAlu

/-!
STATUS and RESULT for any AXI4-Lite master. The slave puts the writes of the master in
an order, with reads at places between them; what a read of one of these two registers
returns depends on how many cycles its place comes after the latest start.
-/
namespace AxiAlu
open Clocked AxiRegisterBank
variable {addrWidth dataWidth : Nat}

namespace Engine
variable (ws : Nat → Option (Write addrWidth dataWidth))

/-- The registers of the engine are those that the writes leave; a start changes none. -/
theorem regs_run (t : Nat) : (runAt ws t).regs = Registers.after (history ws t) :=
  Machine.run_view_foldl machine regs (fun _ w? => w?) Registers.write
    (fun e w? => e.step_regs w?) ws t

/-- An operation that no other one has followed, by the cycles since its start. -/
theorem after_start {v c : Nat} (start : startsAt ws v = true) (later : v ≤ c)
    (none : ∀ u, v < u → u ≤ c → startsAt ws u = false) :
    (runAt ws (c + 1)).wait = v + 3 - c ∧
      (runAt ws (c + 1)).ops = (runAt ws v).ops ++ [(runAt ws v).regs.outcome] := by
  induction c, later using Nat.le_induction with
  | base =>
      constructor
      · rw [wait_succ, if_pos start]
        omega
      · rw [at_succ, step_ops]
        exact if_pos start
  | succ c later ih =>
      obtain ⟨wait, ops⟩ := ih fun u after soon => none u after (by omega)
      have quiet := none (c + 1) (by omega) (Nat.le_refl _)
      constructor
      · rw [wait_succ, quiet, wait]
        simp only [Bool.false_eq_true, if_false]
        omega
      · rw [at_succ, step_ops, ← ops]
        exact if_neg (Bool.eq_false_iff.mp quiet)

theorem shown_after_start {v c : Nat} (start : startsAt ws v = true) (later : v ≤ c)
    (none : ∀ u, v < u → u ≤ c → startsAt ws u = false) :
    let op := (Registers.after (history ws v)).outcome
    (runAt ws (c + 1)).status = (if c < v + 3 then 0b001#3 else BitVec.ofBool op.2 ++ 0b10#2) ∧
      (runAt ws (c + 1)).result = if c < v + 3 then (runAt ws v).result else op.1 := by
  intro op
  obtain ⟨wait, ops⟩ := after_start ws start later none
  rw [regs_run] at ops
  split
  next soon =>
    have waiting : (runAt ws (c + 1)).wait ≠ 0 := by omega
    have free := wait_zero_of_startsAt ws start
    refine ⟨status_waiting _ waiting, ?_⟩
    rw [result_waiting _ waiting, ops, List.dropLast_concat, result_published _ free]
  next ended =>
    have free : (runAt ws (c + 1)).wait = 0 := by omega
    refine ⟨status_published _ free (by rw [ops, List.getLast?_concat]), ?_⟩
    rw [result_published _ free, ops, published, List.getLast?_concat]
    rfl

theorem shown_before_start {c : Nat} (none : ∀ u, u ≤ c → startsAt ws u = false) :
    (runAt ws (c + 1)).status = 0b000#3 ∧ (runAt ws (c + 1)).result = 0 := by
  have ops : (runAt ws (c + 1)).ops = [] := by
    rw [ops_eq_history]
    exact history_quiet (Nat.zero_le _) fun u _ before => by
      rw [outcomeAt, none u (Nat.le_of_lt_succ before)]
      rfl
  have free : (runAt ws (c + 1)).wait = 0 := by
    by_contra waiting
    obtain ⟨u, before, _, start⟩ := (waiting_iff ws (c + 1)).mp waiting
    rw [none u (Nat.le_of_lt_succ before)] at start
    cases start
  refine ⟨status_never _ free ops, ?_⟩
  rw [result_published _ free, ops]
  rfl

end Engine

namespace SlaveBankAlu
section Runs
variable (inp : Nat → Input addrWidth dataWidth)

def slaveInputs (c : Nat) : Axi4LiteSlave.Input addrWidth dataWidth :=
  (machine.run inp c).slaveInput (inp c)

def arAt : Nat → Option (BitVec addrWidth) := Axi4LiteSlave.arAt (slaveInputs inp)
def rAt : Nat → Option (BitVec dataWidth) := Axi4LiteSlave.rAt (slaveInputs inp)

def writeAt (c : Nat) : Option (Write addrWidth dataWidth) := (machine.run inp c).writePort.write?

def honouredAt (c : Nat) : Bool :=
  (machine.run inp c).bankAlu.honours (machine.run inp c).writePort

theorem slave_run (t : Nat) :
    (machine.run inp t).slave = Axi4LiteSlave.machine.run (slaveInputs inp) t :=
  Machine.run_component machine Axi4LiteSlave.machine slave slaveInput rfl
    (fun _ _ => rfl) inp t

theorem bankAlu_run (t : Nat) :
    (machine.run inp t).bankAlu = BankAlu.machine.run (fun c => (machine.run inp c).writePort) t :=
  Machine.run_component machine BankAlu.machine bankAlu (fun s _ => s.writePort) rfl
    (fun _ _ => rfl) inp t

theorem tracks_at (t : Nat) :
    BankAlu.Tracks (machine.run inp t).bankAlu (Engine.runAt (writeAt inp) t) := by
  rw [bankAlu_run]
  exact BankAlu.tracks_run _ t

theorem honouredAt_eq (c : Nat) : honouredAt inp c = Engine.startsAt (writeAt inp) c :=
  (tracks_at inp c).honours_eq_starts _

/-- A read shows the engine of the cycle after its address handshake. -/
theorem offered_word {c d : Nat} {addr : BitVec addrWidth} (asked : arAt inp c = some addr)
    (later : c + 2 ≤ d) (untaken : ∀ e, c + 2 ≤ e → e < d → rAt inp e = none) :
    (machine.run inp d).slave.sAxiRvalid = true ∧
      (machine.run inp d).slave.sAxiRdata = (Engine.runAt (writeAt inp) (c + 1)).read addr := by
  obtain ⟨valid, word⟩ := Axi4LiteSlave.offered_until (slaveInputs inp) asked later untaken
  obtain ⟨_, _, address⟩ := Axi4LiteSlave.sampling_after (slaveInputs inp) asked
  rw [← slave_run] at valid word address
  refine ⟨valid, word.trans ?_⟩
  rw [← (tracks_at inp (c + 1)).rdData, ← address]
  rfl

end Runs

/-- Under any AXI4-Lite master: the word of a read asked for in cycle `c` is offered from
cycle `c + 2` until it is taken. If the latest start honoured up to `c` was pulsed in
cycle `v`, it is for STATUS 1 up to cycle `v + 2` and afterwards DONE with the error of
that start's operation, for RESULT the result before it up to cycle `v + 2` and
afterwards its own, its operands being those of the writes pulsed before `v`. Both are
zero while no start has been honoured. -/
theorem status_and_result_over_axi (legal : LegalWidths addrWidth dataWidth)
    (inp : Nat → Input addrWidth dataWidth) (c : Nat) (addr : BitVec addrWidth)
    (asked : arAt inp c = some addr) (d : Nat) (later : c + 2 ≤ d)
    (untaken : ∀ e, c + 2 ≤ e → e < d → rAt inp e = none) :
    let s := machine.run inp d
    s.slave.sAxiRvalid = true ∧
    (∀ v, v ≤ c → honouredAt inp v = true →
      (∀ u, v < u → u ≤ c → honouredAt inp u = false) →
      let op := (Registers.after (history (writeAt inp) v)).outcome
      (addr = addrStatus → s.slave.sAxiRdata =
        if c < v + 3 then 1 else (BitVec.ofBool op.2 ++ 0b10#2).setWidth dataWidth) ∧
      (addr = addrResult → s.slave.sAxiRdata =
        if c < v + 3 then (machine.run inp v).bank.resultReg else op.1)) ∧
    ((∀ u, u ≤ c → honouredAt inp u = false) →
      addr = addrStatus ∨ addr = addrResult → s.slave.sAxiRdata = 0) := by
  intro s
  obtain ⟨valid, word⟩ := offered_word inp asked later untaken
  refine ⟨valid, ?_, ?_⟩
  · intro v before start none op
    rw [honouredAt_eq] at start
    simp only [honouredAt_eq] at none
    obtain ⟨status, result⟩ := Engine.shown_after_start (writeAt inp) start before none
    constructor
    · rintro rfl
      rw [word, Engine.read_status _ legal, status]
      split
      next => exact BitVec.eq_of_toNat_eq (by simp)
      next => rfl
    · rintro rfl
      have kept : (machine.run inp v).bank.resultReg = (Engine.runAt (writeAt inp) v).result :=
        (tracks_at inp v).result
      rw [word, Engine.read_result _ legal, result, kept]
  · intro none either
    simp only [honouredAt_eq] at none
    obtain ⟨status, result⟩ := Engine.shown_before_start (writeAt inp) none
    rcases either with rfl | rfl
    · rw [word, Engine.read_status _ legal, status]
      simp
    · rw [word, Engine.read_result _ legal, result]

/-- A is written, an addition is started, and while it goes on another one is asked for;
RESULT is read in the first cycle in which it is there. -/
def overlapping (c : Nat) : Input 6 32 :=
  { sAxiAwaddr := if c = 0 then 0x08 else 0x00
    sAxiAwvalid := c ≤ 4
    sAxiWdata := if c = 0 then 3 else 1
    sAxiWstrb := 0b1111
    sAxiWvalid := c ≤ 4
    sAxiBready := true
    sAxiAraddr := 0x14
    sAxiArvalid := c == 7
    sAxiRready := true }

theorem status_and_result_over_axi_overlapping :
    (machine.run overlapping 9).slave.sAxiRvalid = true ∧
      (machine.run overlapping 9).slave.sAxiRdata = 3#32 := by
  obtain ⟨valid, started, _⟩ := status_and_result_over_axi legalWidths_default overlapping 7
    0x14#6 (by decide) 9 (by decide) (fun e _ _ => by omega)
  refine ⟨valid, ?_⟩
  have latest : ∀ u, 4 < u → u ≤ 7 → honouredAt overlapping u = false := by
    intro u after before
    obtain rfl | rfl | rfl : u = 5 ∨ u = 6 ∨ u = 7 := by omega
    all_goals decide
  rw [(started 4 (by decide) (by decide) latest).2 rfl]
  decide

end SlaveBankAlu
end AxiAlu
