import AxiAlu.Clocked.History
import AxiAlu.Metatheory.Division
import AxiAlu.Spec.Registers

/-!
Operations of the core by itself, under a start, operands and an opcode that are free
to change in every cycle. An operation occupies the cycle after its acceptance and is
delivered in the one after that, in which the next one can already be accepted. The
result register then still holds the earlier operation until the edge.
-/
namespace AxiAlu.AluCore
open Clocked
variable {dataWidth opcodeWidth : Nat}

/-- Opcodes up to a given one are told apart, whatever the width. -/
theorem opcode_eq_ofNat_iff {opcode : BitVec opcodeWidth} {k : Nat} (hk : k ≤ opcode.toNat) :
    opcode = BitVec.ofNat opcodeWidth k ↔ opcode.toNat = k := by
  have fits : k % 2 ^ opcodeWidth = k := Nat.mod_eq_of_lt (Nat.lt_of_le_of_lt hk opcode.isLt)
  rw [← BitVec.toNat_inj, BitVec.toNat_ofNat, fits]

/-- The case statement and the divider compute the ALU function. -/
theorem next_eq_aluFunction (opcode : BitVec opcodeWidth) (a b : BitVec dataWidth) :
    next opcode a b = aluFunction opcode a b := by
  have told : ∀ k, k ≤ opcode.toNat → (opcode = BitVec.ofNat opcodeWidth k ↔ opcode.toNat = k) :=
    fun k hk => opcode_eq_ofNat_iff hk
  rw [next, aluFunction, opAdd, opSub, opMul, opDiv]
  generalize opcode.toNat = op at told
  obtain _ | _ | _ | _ | op := op
  · simp [told 0]
  · simp [told 0, told 1]
  · simp [told 0, told 1, told 2]
  · by_cases hb : b = 0
    · simp [told 0, told 1, told 2, told 3, hb]
    · simp [told 0, told 1, told 2, told 3, divideUnsigned_eq_div a b hb]
  · simp [told 0, told 1, told 2, told 3]

def accepts (s : AluCore dataWidth) (i : Input dataWidth opcodeWidth) : Bool :=
  i.start && !s.busy

section Steps
variable (s : AluCore dataWidth)

theorem step_accepted {i : Input dataWidth opcodeWidth} (accepted : s.accepts i = true) :
    s.step i =
      { result := (aluFunction i.opcode i.operandA i.operandB).1
        busy := true
        done := false
        error := (aluFunction i.opcode i.operandA i.operandB).2 } := by
  simp only [accepts] at accepted
  simp only [step, accepted, if_true, resultNext, errorNext, next_eq_aluFunction]

theorem step_busy (i : Input dataWidth opcodeWidth) (busy : s.busy = true) :
    s.step i = { s with busy := false, done := true } := by
  simp [step, busy]

theorem step_idle {i : Input dataWidth opcodeWidth} (quiet : i.start = false)
    (free : s.busy = false) : s.step i = { s with done := false } := by
  simp [step, quiet, free]

theorem busy_step (i : Input dataWidth opcodeWidth) : (s.step i).busy = s.accepts i := by
  cases hs : i.start <;> cases hb : s.busy <;> simp [step, accepts, hs, hb]

theorem done_step (i : Input dataWidth opcodeWidth) : (s.step i).done = s.busy := by
  cases hs : i.start <;> cases hb : s.busy <;> simp [step, hs, hb]

end Steps

section Runs
variable (inp : Nat → Input dataWidth opcodeWidth)

def acceptedAt (c : Nat) : Bool := (machine.run inp c).accepts (inp c)

def functionAt (c : Nat) : BitVec dataWidth × Bool :=
  aluFunction (inp c).opcode (inp c).operandA (inp c).operandB

def askedAt : Nat → Option (BitVec dataWidth × Bool) := observe (acceptedAt inp) (functionAt inp)

def deliveredAt : Nat → Option (BitVec dataWidth × Bool) :=
  observe (fun c => (machine.run inp c).done)
    (fun c => ((machine.run inp c).result, (machine.run inp c).error))

theorem busy_succ (c : Nat) : (machine.run inp (c + 1)).busy = acceptedAt inp c :=
  busy_step _ _

theorem done_add_two (c : Nat) : (machine.run inp (c + 2)).done = acceptedAt inp c :=
  (done_step _ _).trans (busy_succ inp c)

theorem done_early {c : Nat} (hc : c < 2) : (machine.run inp c).done = false := by
  obtain rfl | rfl : c = 0 ∨ c = 1 := by omega
  · rfl
  · exact done_step _ _

/-- An operation is delivered as it was asked for; the cycle between does not count. -/
theorem outcome_delivered {c : Nat} (accepted : acceptedAt inp c = true) :
    ((machine.run inp (c + 2)).result, (machine.run inp (c + 2)).error) = functionAt inp c := by
  have working := busy_succ inp c
  rw [accepted] at working
  have started : machine.run inp (c + 1) = _ := step_accepted (machine.run inp c) accepted
  have finished : machine.run inp (c + 2) = _ :=
    step_busy (machine.run inp (c + 1)) (inp (c + 1)) working
  rw [finished, started]
  rfl

theorem deliveredAt_add_two (c : Nat) : deliveredAt inp (c + 2) = askedAt inp c := by
  rw [deliveredAt, askedAt, observe, observe, done_add_two]
  cases accepted : acceptedAt inp c with
  | true => rw [outcome_delivered inp accepted]
  | false => rfl

/-- The outcomes delivered are those asked for, in order, two cycles later. -/
theorem history_deliveredAt (t : Nat) :
    history (deliveredAt inp) (t + 2) = history (askedAt inp) t := by
  apply history_delay 2
  · intro c hc
    rw [deliveredAt, observe, done_early inp hc]
    rfl
  · exact deliveredAt_add_two inp

theorem done_iff_accepted (t : Nat) :
    (machine.run inp t).done = true ↔ ∃ c, t = c + 2 ∧ acceptedAt inp c = true := by
  constructor
  · intro done
    have late : 2 ≤ t := by
      by_contra early
      rw [done_early inp (by omega)] at done
      cases done
    obtain ⟨c, rfl⟩ : ∃ c, t = c + 2 := ⟨t - 2, by omega⟩
    exact ⟨c, rfl, (done_add_two inp c).symm.trans done⟩
  · rintro ⟨c, rfl, accepted⟩
    exact (done_add_two inp c).trans accepted

theorem acceptedAt_after {c : Nat} (accepted : acceptedAt inp c = true) :
    acceptedAt inp (c + 1) = false ∧ acceptedAt inp (c + 2) = (inp (c + 2)).start := by
  have ignored : acceptedAt inp (c + 1) = false := by
    rw [acceptedAt, accepts, busy_succ, accepted]
    exact Bool.and_false _
  refine ⟨ignored, ?_⟩
  rw [acceptedAt, accepts, busy_succ, ignored]
  exact Bool.and_true _

/-- A cycle that accepts nothing leaves what a cycle without a start leaves. -/
theorem step_ignored {s : AluCore dataWidth} {i : Input dataWidth opcodeWidth}
    (ignored : s.accepts i = false) {quiet : Input dataWidth opcodeWidth}
    (noStart : quiet.start = false) : s.step i = s.step quiet := by
  cases busy : s.busy with
  | true => rw [step_busy s i busy, step_busy s quiet busy]
  | false =>
      have idle : i.start = false := by simpa [accepts, busy] using ignored
      rw [step_idle s idle busy, step_idle s noStart busy]

end Runs

/-- For every start pattern: a start is accepted where the core is free, taking the ALU
function of its own cycle, and elsewhere it is as if it were not there; done is up two
cycles after each acceptance and at no other time, for one cycle; and result and error
then are those of the acceptance cycle, whatever starts come in the meantime or in the
done cycle itself. -/
theorem start_stream_served (inp : Nat → Input dataWidth opcodeWidth) :
    (∀ c, (inp c).start = true →
      (acceptedAt inp c = true ↔ (machine.run inp c).busy = false)) ∧
    (∀ c, acceptedAt inp c = true →
      (machine.run inp (c + 1)).busy = true ∧
        ((machine.run inp (c + 1)).result, (machine.run inp (c + 1)).error) =
          functionAt inp c) ∧
    (∀ c, acceptedAt inp c = false → ∀ quiet : Input dataWidth opcodeWidth,
      quiet.start = false → machine.run inp (c + 1) = (machine.run inp c).step quiet) ∧
    (∀ t, (machine.run inp t).done = true ↔ ∃ c, t = c + 2 ∧ acceptedAt inp c = true) ∧
    (∀ t, (machine.run inp t).done = true → (machine.run inp (t + 1)).done = false) ∧
    (∀ t, history (deliveredAt inp) (t + 2) = history (askedAt inp) t) ∧
    (∀ c, acceptedAt inp c = true →
      ((machine.run inp (c + 2)).result, (machine.run inp (c + 2)).error) = functionAt inp c ∧
        acceptedAt inp (c + 1) = false ∧ acceptedAt inp (c + 2) = (inp (c + 2)).start) := by
  refine ⟨?_, ?_, ?_, done_iff_accepted inp, ?_, history_deliveredAt inp, ?_⟩
  · intro c start
    simp [acceptedAt, accepts, start]
  · intro c accepted
    have started : machine.run inp (c + 1) = _ := step_accepted (machine.run inp c) accepted
    rw [started]
    exact ⟨rfl, rfl⟩
  · intro c ignored quiet noStart
    exact step_ignored ignored noStart
  · intro t done
    obtain ⟨c, rfl, accepted⟩ := (done_iff_accepted inp t).mp done
    exact (done_add_two inp (c + 1)).trans (acceptedAt_after inp accepted).1
  · intro c accepted
    exact ⟨outcome_delivered inp accepted, acceptedAt_after inp accepted⟩

end AxiAlu.AluCore
