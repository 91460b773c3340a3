import AxiAlu.Metatheory.BankHistory
import AxiAlu.Metatheory.SlaveReadChannel
import AxiAlu.Metatheory.SlaveWriteChannel
import AxiAlu.Rtl.AvalonAxi4LiteAlu

/-!
The slave in front of the bank, under any AXI4-Lite master and any core. A read
takes effect at its address handshake: it returns the registers as the writes
pulsed up to that cycle have left them, and the stall of its answer does not move
that point. STATUS and RESULT, which the core writes, are outside the statement.
-/
namespace AxiAlu.SlaveBank
open Clocked AxiRegisterBank
variable {addrWidth dataWidth : Nat}

section Runs
variable (inp : Nat → Input addrWidth dataWidth)

def slaveInputs (c : Nat) : Axi4LiteSlave.Input addrWidth dataWidth :=
  (machine.run inp c).slaveInput (inp c)

theorem slave_run (t : Nat) :
    (machine.run inp t).slave = Axi4LiteSlave.machine.run (slaveInputs inp) t :=
  Machine.run_component machine Axi4LiteSlave.machine slave slaveInput rfl
    (fun _ _ => rfl) inp t

def awAt : Nat → Option (BitVec addrWidth) := Axi4LiteSlave.awAt (slaveInputs inp)
def wAt : Nat → Option (BitVec dataWidth × BitVec (dataWidth / 8)) :=
  Axi4LiteSlave.wAt (slaveInputs inp)
def bAt : Nat → Option (BitVec 2) := Axi4LiteSlave.bAt (slaveInputs inp)
def arAt : Nat → Option (BitVec addrWidth) := Axi4LiteSlave.arAt (slaveInputs inp)
def rAt : Nat → Option (BitVec dataWidth) := Axi4LiteSlave.rAt (slaveInputs inp)
def pulseAt : Nat → Option (BitVec addrWidth × BitVec dataWidth × BitVec (dataWidth / 8)) :=
  Axi4LiteSlave.pulseAt (slaveInputs inp)

def pulses (c : Nat) : Nat := (history (pulseAt inp) (c + 1)).length

/-- The first `n` accepted pairs of address and word, as writes; the handshakes of
the cycles before `t` are looked at. -/
def pairs (n t : Nat) : List (Write addrWidth dataWidth) :=
  (((history (awAt inp) t).take n).zip ((history (wAt inp) t).take n)).map Write.ofChannels

theorem bank_run (t : Nat) :
    (machine.run inp t).bank =
      AxiRegisterBank.machine.run (fun c => (machine.run inp c).bankInput (inp c)) t :=
  Machine.run_component machine AxiRegisterBank.machine bank bankInput rfl
    (fun _ _ => rfl) inp t

theorem bank_write (c : Nat) :
    ((machine.run inp c).bankInput (inp c)).write? = (pulseAt inp c).map Write.ofChannels := by
  simp only [bankInput, AxiRegisterBank.Input.write?, Write.ofPort, pulseAt,
    Axi4LiteSlave.pulseAt, observe, ← slave_run, apply_ite (Option.map Write.ofChannels)]
  rfl

theorem bank_regs (t : Nat) :
    (machine.run inp t).bank.regs =
      Registers.after ((history (pulseAt inp) t).map Write.ofChannels) := by
  rw [bank_run, AxiRegisterBank.regs_run, history_map, AxiRegisterBank.writesBefore]
  simp only [bank_write]

/-- The bank of the cycle after `c` holds the first accepted pairs, as many as
there are pulses up to `c`. -/
theorem bank_regs_pairs (c : Nat) :
    (machine.run inp (c + 1)).bank.regs = Registers.after (pairs inp (pulses inp c) c) := by
  rw [bank_regs]
  exact congrArg (fun ps => Registers.after (ps.map Write.ofChannels))
    (Axi4LiteSlave.pulsed_eq_zip (slaveInputs inp) c)

/-- The bank is sampled in the cycle after the address handshake. -/
theorem sampled_word {c : Nat} {addr : BitVec addrWidth} (asked : arAt inp c = some addr)
    (notStatus : addr ≠ addrStatus) (notResult : addr ≠ addrResult) :
    (slaveInputs inp (c + 1)).rdData =
      (Registers.after (pairs inp (pulses inp c) c)).read addr := by
  obtain ⟨_, _, address⟩ := Axi4LiteSlave.sampling_after (slaveInputs inp) asked
  rw [← bank_regs_pairs, ← rdData_regs _ notStatus notResult, ← address, ← slave_run]
  rfl

end Runs

/-- A read asked for in cycle `c` offers its word from cycle `c + 2` until it is
taken, and the word is the register contents after exactly the first `n` accepted
pairs, `n` being the number of pulses up to `c`: acknowledged writes are among
them, writes whose address or word arrives in `c` or later are not, and later
reads see at least as many. Byte by byte, each lane of A and B is that of the last
of these pairs to select it, and OPCODE the low nibble of the last to select its lane. -/
theorem reads_linearize (inp : Nat → Input addrWidth dataWidth) (c : Nat)
    (addr : BitVec addrWidth) (asked : arAt inp c = some addr) :
    let n := pulses inp c
    (history (rAt inp) (c + 2)).length = (history (arAt inp) c).length ∧
    (∀ d, c + 2 ≤ d → (∀ e, c + 2 ≤ e → e < d → rAt inp e = none) →
      (machine.run inp d).slave.sAxiRvalid = true ∧
        (addr ≠ addrStatus → addr ≠ addrResult →
          (machine.run inp d).slave.sAxiRdata =
            (Registers.after (pairs inp n c)).read addr)) ∧
    (pairs inp n c).length = n ∧
    (history (bAt inp) (c + 1)).length ≤ n ∧
    n ≤ (history (awAt inp) c).length ∧
    n ≤ (history (wAt inp) c).length ∧
    (∀ c', c ≤ c' → n ≤ pulses inp c') ∧
    (LegalWidths addrWidth dataWidth →
      let word := (Registers.after (pairs inp n c)).read addr
      (addr = addrA → ∀ i, i < dataWidth / 8 → byteLane word i =
        lastHit (Write.hitsLane addrA i) (fun w => byteLane w.data i) 0 (pairs inp n c)) ∧
      (addr = addrB → ∀ i, i < dataWidth / 8 → byteLane word i =
        lastHit (Write.hitsLane addrB i) (fun w => byteLane w.data i) 0 (pairs inp n c)) ∧
      (addr = addrOpcode → word =
        (lastHit (Write.hitsLane addrOpcode 0) (fun w => w.data.setWidth 4) 0
          (pairs inp n c)).setWidth dataWidth) ∧
      (addr ∉ [addrA, addrB, addrOpcode] → word = 0)) := by
  intro n
  have aw : (history (awAt inp) c).length = n + _ := Axi4LiteSlave.aw_count (slaveInputs inp) c
  have w : (history (wAt inp) c).length = n + _ := Axi4LiteSlave.w_count (slaveInputs inp) c
  refine ⟨?_, fun d later untaken => ?_, ?_, ?_, by omega, by omega, fun c' hc => ?_,
    fun legal => Registers.read_after legal _ addr⟩
  · exact Axi4LiteSlave.answered_before (slaveInputs inp) asked
  · obtain ⟨valid, data⟩ := Axi4LiteSlave.offered_until (slaveInputs inp) asked later untaken
    rw [slave_run]
    refine ⟨valid, fun notStatus notResult => ?_⟩
    rw [data, sampled_word inp asked notStatus notResult]
  · rw [pairs, List.length_map, List.length_zip, List.length_take, List.length_take]
    omega
  · exact Axi4LiteSlave.acknowledged_le (slaveInputs inp) c
  · exact history_length_mono _ (by omega)

/-- A is written in cycle 0, and read in the cycle in which that write is pulsed. -/
def readDuringPulse (c : Nat) : Input 6 32 :=
  { sAxiAwaddr := 0x08
    sAxiAwvalid := c == 0
    sAxiWdata := 7
    sAxiWstrb := 0b1111
    sAxiWvalid := c == 0
    sAxiBready := true
    sAxiAraddr := 0x08
    sAxiArvalid := c == 2
    sAxiRready := false
    coreResult := 0
    coreDone := false
    coreError := false }

theorem reads_linearize_during_pulse :
    pulses readDuringPulse 2 = 1 ∧
      (machine.run readDuringPulse 6).slave.sAxiRdata = 7#32 ∧
      byteLane (machine.run readDuringPulse 6).slave.sAxiRdata 0 = 0x07#8 := by
  have asked : arAt readDuringPulse 2 = some 0x08#6 := by decide
  have untaken : ∀ e, 4 ≤ e → e < 6 → rAt readDuringPulse e = none := by
    intro e _ _
    exact (Axi4LiteSlave.rAt_none _).mpr (Bool.and_false _)
  obtain ⟨_, offered, _, _, _, _, _, content⟩ := reads_linearize readDuringPulse 2 0x08#6 asked
  have word := (offered 6 (by decide) untaken).2 (by decide) (by decide)
  have lanes := (content legalWidths_default).1 (by decide)
  refine ⟨by decide, word.trans (by decide), ?_⟩
  rw [word]
  exact (lanes 0 (by decide)).trans (by decide)

end AxiAlu.SlaveBank
