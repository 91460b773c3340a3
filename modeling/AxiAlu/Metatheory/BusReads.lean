import AxiAlu.Metatheory.BusObservations
import AxiAlu.Metatheory.ByteLanes

/-!
Reads over the bus. Every accepted read is answered exactly four cycles later and
nothing else is answered. The word is that of a sequential register file to which
the writes accepted before the read have been applied; for STATUS and RESULT it
also tells how far the operations asked for by then have come.
-/
namespace AxiAlu.AvalonAxi4LiteAlu
open Clocked AxiRegisterBank
variable {addrWidth dataWidth : Nat}

section Runs
variable (inp : Nat → Avalon addrWidth dataWidth)

theorem accepted_spacing {n m : Nat} {command command' : Command addrWidth dataWidth}
    (accepted : acceptedAt inp n = some command) (accepted' : acceptedAt inp m = some command')
    (later : n < m) : n + 4 ≤ m := by
  rw [acceptedAt_eq] at accepted accepted'
  exact Accelerator.accepted_spacing inp accepted accepted' later

/-- The word that answers a read is what the engine shows two cycles after it. -/
theorem response_of_read {n : Nat} {addr : BitVec addrWidth}
    (accepted : acceptedAt inp n = some (.read addr)) :
    responseAt inp (n + 4) = some ((Accelerator.runAt inp (n + 2)).engine.read addr) := by
  rw [acceptedAt_eq] at accepted
  rw [responseAt_eq, Accelerator.response_of_read inp accepted]

theorem sampled_engine {n : Nat} {addr : BitVec addrWidth}
    (accepted : acceptedAt inp n = some (.read addr)) :
    let e := (Accelerator.runAt inp (n + 2)).engine
    e.regs = Registers.after (writesBefore inp n) ∧ e.ops = operations (writesBefore inp n) ∧
      (e.wait ≠ 0 ↔ JustStarted inp n) := by
  rw [justStarted_iff, writesBefore_eq]
  rw [acceptedAt_eq] at accepted
  exact Accelerator.sampled_engine inp accepted

theorem responds_iff (t : Nat) :
    (responseAt inp t).isSome = true ↔
      ∃ n addr, t = n + 4 ∧ acceptedAt inp n = some (.read addr) := by
  constructor
  · intro responds
    obtain ⟨word, response⟩ := Option.isSome_iff_exists.mp responds
    rw [responseAt_eq] at response
    rw [acceptedAt_eq]
    exact Accelerator.accepted_of_response inp response
  · rintro ⟨n, addr, rfl, accepted⟩
    rw [response_of_read inp accepted]
    rfl

/-- As many responses by cycle `t + 3` as reads accepted before cycle `t`. -/
theorem responses_count (t : Nat) :
    (history (responseAt inp) (t + 4)).length = (readsBefore inp t).length := by
  rw [readsBefore, history_filterMap]
  apply history_length_delay 4
  · intro c early
    apply Option.not_isSome_iff_eq_none.mp
    intro responds
    obtain ⟨n, addr, hn, _⟩ := (responds_iff inp c).mp responds
    omega
  · intro c
    rw [Bool.eq_iff_iff, responds_iff]
    cases accepted : acceptedAt inp c with
    | none => simp [accepted]
    | some command =>
        cases command with
        | write w => simp [accepted, Command.read?]
        | read addr => simp [accepted, Command.read?]

theorem outstanding_reads (t : Nat) :
    (readsBefore inp t).length = (history (responseAt inp) (t + 1)).length ∨
      (readsBefore inp t).length = (history (responseAt inp) (t + 1)).length + 1 ∧
        ∃ addr, (history (acceptedAt inp) t).getLast? = some (.read addr) := by
  have apart : ∀ a b command, a < b → b < a + 4 → acceptedAt inp a = some command →
      acceptedAt inp b = none := by
    intro a b command hab near accepted
    apply Option.eq_none_iff_forall_ne_some.mpr
    intro command' accepted'
    have gap := accepted_spacing inp accepted accepted' hab
    omega
  have answered : (history (responseAt inp) (t + 1)).length =
      (readsBefore inp (t - 3)).length := by
    by_cases late : 3 ≤ t
    · rw [← responses_count, show t - 3 + 4 = t + 1 by omega]
    · have grows := history_length_mono (responseAt inp) (show t + 1 ≤ 0 + 4 by omega)
      rw [responses_count] at grows
      rw [show t - 3 = 0 by omega]
      exact Nat.le_antisymm grows (Nat.zero_le _)
  rw [answered]
  have window : history (acceptedAt inp) t = history (acceptedAt inp) (t - 3) ∨
      ∃ command, history (acceptedAt inp) t = history (acceptedAt inp) (t - 3) ++ [command] :=
    history_window (by omega) fun a b command h₁ h₂ h₃ => apart a b command h₂ (by omega)
  rcases window with same | ⟨command, latest⟩
  · rw [readsBefore, same]
    exact Or.inl rfl
  · rw [readsBefore, latest]
    cases command with
    | write w => exact Or.inl (by simp [Command.read?, readsBefore])
    | read addr => exact Or.inr ⟨by simp [Command.read?, readsBefore], addr, by simp⟩

end Runs

/-- The operand registers change only by a write to them that was accepted three
cycles before; no other command, no start and no completion touches them. -/
theorem operands_framed (legal : LegalWidths addrWidth dataWidth)
    (inp : Nat → Avalon addrWidth dataWidth) (t : Nat) (addr : BitVec addrWidth)
    (other : ∀ n w, t = n + 3 → acceptedAt inp n = some (.write w) → w.addr ≠ addr) :
    let s := machine.run inp t
    let s' := machine.run inp (t + 1)
    (addr = addrA → s'.bank.operandA = s.bank.operandA) ∧
      (addr = addrB → s'.bank.operandB = s.bank.operandB) ∧
      (addr = addrOpcode → s'.bank.opcode = s.bank.opcode) := by
  intro s s'
  have port : s.writePort.write? = Accelerator.writeAt inp t := (refines_run inp t).phase.writePort
  have regs : s'.bank.regs = (Accelerator.writeAt inp t).elim s.bank.regs s.bank.regs.write := by
    rw [← port]
    exact AxiRegisterBank.step_regs s.bank (s.bankAlu.bankInput s.writePort)
  cases written : Accelerator.writeAt inp t with
  | none =>
      rw [written] at regs
      exact ⟨fun _ => congrArg Registers.a regs, fun _ => congrArg Registers.b regs,
        fun _ => congrArg Registers.opcode regs⟩
  | some w =>
      obtain ⟨n, hn, accepted⟩ := Accelerator.accepted_of_writeAt inp written
      rw [← acceptedAt_eq] at accepted
      have miss := other n w hn accepted
      rw [written, Option.elim_some] at regs
      refine ⟨?_, ?_, ?_⟩
      · rintro rfl
        refine (congrArg Registers.a regs).trans ?_
        rw [Registers.write_a legal, if_neg miss]
        rfl
      · rintro rfl
        refine (congrArg Registers.b regs).trans ?_
        rw [Registers.write_b legal, if_neg miss]
        rfl
      · rintro rfl
        refine (congrArg Registers.opcode regs).trans ?_
        rw [Registers.write_opcode legal, Write.hitsLane, decide_eq_false miss]
        rfl

/-- Whatever the Avalon inputs do: each accepted read is answered, four cycles
later, and nothing else is; the word holds in each lane of A and B the byte of the
last write accepted before the read that selected it, for OPCODE the low nibble of
the last write that selected lane 0, and zero for CTRL and for unmapped addresses;
and a cycle in which no write to one of these registers takes effect, whatever else
takes effect in it, leaves that register as it was. -/
theorem bus_refines_register_file (legal : LegalWidths addrWidth dataWidth)
    (inp : Nat → Avalon addrWidth dataWidth) :
    (∀ t, (responseAt inp t).isSome = true ↔
      ∃ n addr, t = n + 4 ∧ acceptedAt inp n = some (.read addr)) ∧
    (∀ t, (readsBefore inp t).length = (history (responseAt inp) (t + 1)).length ∨
      (readsBefore inp t).length = (history (responseAt inp) (t + 1)).length + 1 ∧
        ∃ addr, (history (acceptedAt inp) t).getLast? = some (.read addr)) ∧
    (∀ n addr, acceptedAt inp n = some (.read addr) →
      ∃ word, responseAt inp (n + 4) = some word ∧
        (addr = addrA → ∀ i, i < dataWidth / 8 → byteLane word i =
          lastHit (Write.hitsLane addrA i) (fun w => byteLane w.data i) 0
            (writesBefore inp n)) ∧
        (addr = addrB → ∀ i, i < dataWidth / 8 → byteLane word i =
          lastHit (Write.hitsLane addrB i) (fun w => byteLane w.data i) 0
            (writesBefore inp n)) ∧
        (addr = addrOpcode → word =
          (lastHit (Write.hitsLane addrOpcode 0) (fun w => w.data.setWidth 4) 0
            (writesBefore inp n)).setWidth dataWidth) ∧
        (addr ∉ [addrStatus, addrA, addrB, addrOpcode, addrResult] → word = 0)) ∧
    (∀ t addr, (∀ n w, t = n + 3 → acceptedAt inp n = some (.write w) → w.addr ≠ addr) →
      let s := machine.run inp t
      let s' := machine.run inp (t + 1)
      (addr = addrA → s'.bank.operandA = s.bank.operandA) ∧
        (addr = addrB → s'.bank.operandB = s.bank.operandB) ∧
        (addr = addrOpcode → s'.bank.opcode = s.bank.opcode)) := by
  refine ⟨responds_iff inp, outstanding_reads inp, ?_, operands_framed legal inp⟩
  intro n addr accepted
  obtain ⟨regs, _, _⟩ := sampled_engine inp accepted
  refine ⟨_, response_of_read inp accepted, ?_, ?_, ?_, ?_⟩
  · rintro rfl i hi
    rw [Engine.read_a _ legal, regs, Registers.after_a legal _ hi]
  · rintro rfl i hi
    rw [Engine.read_b _ legal, regs, Registers.after_b legal _ hi]
  · rintro rfl
    rw [Engine.read_opcode _ legal, regs, Registers.after_opcode legal]
  · intro other
    simp only [List.mem_cons, List.not_mem_nil, or_false, not_or] at other
    obtain ⟨status, a, b, opcode, result⟩ := other
    rw [Engine.read_regs _ status result]
    exact Registers.read_unmapped _ a b opcode

/-- Two partial writes of A as close together as they can be, then a read of A. -/
def partialWrites : Nat → Avalon 6 32
  | 0 => Command.lines .quiet (.write { addr := 0x08, data := 0x11223344, strb := 0b0001 })
  | 4 => Command.lines .quiet (.write { addr := 0x08, data := 0x55667788, strb := 0b0110 })
  | 8 => Command.lines .quiet (.read 0x08)
  | _ => .quiet

theorem bus_refines_register_file_partial :
    ∃ word, responseAt partialWrites 12 = some word ∧ byteLane word 0 = 0x44#8 ∧
      byteLane word 1 = 0x77#8 ∧ byteLane word 2 = 0x66#8 ∧ byteLane word 3 = 0x00#8 := by
  have law := bus_refines_register_file legalWidths_default partialWrites
  have accepted : acceptedAt partialWrites 8 = some (.read 0x08#6) := by decide
  obtain ⟨word, response, lanes, _⟩ := law.2.2.1 8 0x08#6 accepted
  have lane := lanes (by decide)
  refine ⟨word, response, ?_, ?_, ?_, ?_⟩
  · exact (lane 0 (by decide)).trans (by decide)
  · exact (lane 1 (by decide)).trans (by decide)
  · exact (lane 2 (by decide)).trans (by decide)
  · exact (lane 3 (by decide)).trans (by decide)

end AxiAlu.AvalonAxi4LiteAlu
