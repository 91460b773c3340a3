import AxiAlu.Clocked.History
import AxiAlu.Metatheory.SlaveSteps
import Mathlib.Data.Nat.Init

/-!
The read channel of the slave under any master. A read is outstanding from its
address handshake to its data handshake: for one cycle it waits for the sample of
the bank, then it offers the sample. The write channel appears nowhere in the
argument, and nothing is assumed of the word that the bank presents.
-/
namespace AxiAlu.Axi4LiteSlave
open Clocked
variable {addrWidth dataWidth : Nat}

/-- A read is either waiting for its sample or offering it, never both. -/
def ReadExclusive (s : Axi4LiteSlave addrWidth dataWidth) : Prop :=
  (s.readPending && s.rvalidQ) = false

theorem readExclusive_step (s : Axi4LiteSlave addrWidth dataWidth)
    (i : Input addrWidth dataWidth) (h : s.ReadExclusive) : (s.step i).ReadExclusive := by
  simp only [ReadExclusive, step_readPending, step_rvalidQ, arFire, sAxiArready] at h ⊢
  cases hp : s.readPending <;> cases hv : s.rvalidQ <;> simp_all

theorem readExclusive_run (inp : Nat → Input addrWidth dataWidth) (t : Nat) :
    (machine.run inp t).ReadExclusive :=
  Machine.run_invariant machine ReadExclusive rfl readExclusive_step inp t

def outstanding (s : Axi4LiteSlave addrWidth dataWidth) : Bool := s.readPending || s.rvalidQ

theorem outstanding_step {s : Axi4LiteSlave addrWidth dataWidth} (h : s.ReadExclusive)
    (i : Input addrWidth dataWidth) :
    s.outstanding.toNat + (s.arFire i).toNat =
      (s.rFire i).toNat + (s.step i).outstanding.toNat := by
  simp only [outstanding, step_readPending, step_rvalidQ, arFire, rFire, sAxiArready, sAxiRvalid]
  simp only [ReadExclusive] at h
  cases hp : s.readPending <;> cases hv : s.rvalidQ <;> cases i.sAxiRready <;>
    cases i.sAxiArvalid <;> simp_all

theorem ReadExclusive.not_pending {s : Axi4LiteSlave addrWidth dataWidth}
    (h : s.ReadExclusive) (offering : s.rvalidQ = true) : s.readPending = false := by
  simpa [ReadExclusive, offering] using h

section Observations
variable (inp : Nat → Input addrWidth dataWidth)

def arAt : Nat → Option (BitVec addrWidth) :=
  observe (fun c => (machine.run inp c).arFire (inp c)) (fun c => (inp c).sAxiAraddr)

def rAt : Nat → Option (BitVec dataWidth) :=
  observe (fun c => (machine.run inp c).rFire (inp c)) (fun c => (machine.run inp c).sAxiRdata)

theorem arAt_fires {c : Nat} {addr : BitVec addrWidth} (asked : arAt inp c = some addr) :
    (machine.run inp c).arFire (inp c) = true ∧ (inp c).sAxiAraddr = addr := by
  cases h : (machine.run inp c).arFire (inp c) <;> simp_all [arAt, observe]

theorem rAt_fires {c : Nat} {word : BitVec dataWidth} (answered : rAt inp c = some word) :
    (machine.run inp c).rFire (inp c) = true ∧ (machine.run inp c).sAxiRdata = word := by
  cases h : (machine.run inp c).rFire (inp c) <;> simp_all [rAt, observe]

theorem arAt_none {c : Nat} :
    arAt inp c = none ↔ (machine.run inp c).arFire (inp c) = false := by
  simp [arAt, observe]

theorem rAt_none {c : Nat} :
    rAt inp c = none ↔ (machine.run inp c).rFire (inp c) = false := by
  simp [rAt, observe]

theorem ar_conserved (t : Nat) :
    (history (arAt inp) t).length =
      (history (rAt inp) t).length + (machine.run inp t).outstanding.toNat := by
  induction t with
  | zero => rfl
  | succ t ih =>
      have balance := outstanding_step (readExclusive_run inp t) (inp t)
      have asked := length_history_observe_succ
        (fun c => (machine.run inp c).arFire (inp c)) (fun c => (inp c).sAxiAraddr) t
      have answered := length_history_observe_succ
        (fun c => (machine.run inp c).rFire (inp c)) (fun c => (machine.run inp c).sAxiRdata) t
      change (history (arAt inp) (t + 1)).length = (history (arAt inp) t).length + _ at asked
      change (history (rAt inp) (t + 1)).length = (history (rAt inp) t).length + _ at answered
      rw [asked, answered, ih, Machine.run_succ]
      change _ = _ + ((machine.run inp t).step (inp t)).outstanding.toNat
      omega

end Observations

section Window
variable (inp : Nat → Input addrWidth dataWidth) {c : Nat} {addr : BitVec addrWidth}

/-- In the cycle after its address handshake a read presents its address to the bank. -/
theorem sampling_after (asked : arAt inp c = some addr) :
    (machine.run inp (c + 1)).readPending = true ∧
      (machine.run inp (c + 1)).rvalidQ = false ∧
      (machine.run inp (c + 1)).rdAddr = addr := by
  obtain ⟨fires, address⟩ := arAt_fires inp asked
  have pending : (machine.run inp (c + 1)).readPending = true := by
    rw [Machine.run_succ]
    exact (step_readPending _ _).trans fires
  refine ⟨pending, ?_, ?_⟩
  · simpa [ReadExclusive, pending] using readExclusive_run inp (c + 1)
  · rw [Machine.run_succ]
    exact (step_araddrQ _ _).trans (by rw [fires, address]; rfl)

/-- From the cycle after that the sample is offered, unchanged, until it is taken. -/
theorem offered_until (asked : arAt inp c = some addr) {d : Nat} (later : c + 2 ≤ d)
    (untaken : ∀ e, c + 2 ≤ e → e < d → rAt inp e = none) :
    (machine.run inp d).sAxiRvalid = true ∧
      (machine.run inp d).sAxiRdata = (inp (c + 1)).rdData := by
  induction d, later using Nat.le_induction with
  | base =>
      obtain ⟨pending, notValid, _⟩ := sampling_after inp asked
      constructor
      · change ((machine.run inp (c + 1)).step (inp (c + 1))).rvalidQ = true
        rw [step_rvalidQ, rFire, sAxiRvalid, pending, notValid]
        rfl
      · change ((machine.run inp (c + 1)).step (inp (c + 1))).rdataQ = _
        rw [step_rdataQ, pending]
        rfl
  | succ d later ih =>
      obtain ⟨valid, data⟩ := ih fun e h₁ h₂ => untaken e h₁ (by omega)
      have stalled := (rAt_none inp).mp (untaken d later (Nat.lt_succ_self d))
      have notPending := (readExclusive_run inp d).not_pending valid
      constructor
      · change ((machine.run inp d).step (inp d)).rvalidQ = true
        rw [step_rvalidQ, stalled, show (machine.run inp d).rvalidQ = true from valid]
        simp
      · change ((machine.run inp d).step (inp d)).rdataQ = _
        rw [step_rdataQ, notPending]
        exact data

/-- All earlier reads have been answered when a read is asked, and no answer is
given while it waits for its sample. -/
theorem answered_before (asked : arAt inp c = some addr) :
    (history (rAt inp) (c + 2)).length = (history (arAt inp) c).length := by
  obtain ⟨fires, _⟩ := arAt_fires inp asked
  simp only [arFire, sAxiArready, Bool.and_eq_true, Bool.not_eq_true'] at fires
  have silent : ∀ e, c ≤ e → e < c + 2 → rAt inp e = none := by
    intro e h₁ h₂
    have notValid : (machine.run inp e).rvalidQ = false := by
      obtain rfl | rfl : e = c ∨ e = c + 1 := by omega
      · exact fires.2.2
      · exact (sampling_after inp asked).2.1
    rw [rAt_none, rFire, sAxiRvalid, notValid]
    rfl
  rw [history_quiet (by omega) silent, ar_conserved, outstanding, fires.2.1, fires.2.2]
  rfl

theorem rdAddr_until (asked : arAt inp c = some addr) {d : Nat} (later : c < d)
    (none : ∀ e, c < e → e < d → arAt inp e = none) : (machine.run inp d).rdAddr = addr := by
  induction d, later using Nat.le_induction with
  | base => exact (sampling_after inp asked).2.2
  | succ d later ih =>
      have held := ih fun e h₁ h₂ => none e h₁ (by omega)
      have quiet := (arAt_none inp).mp (none d later (Nat.lt_succ_self d))
      rw [Machine.run_succ]
      exact (step_araddrQ _ _).trans (by rw [quiet]; exact held)

/-- The read that an answer belongs to: the one as many as it from the first. -/
theorem asked_of_answered {d : Nat} {word : BitVec dataWidth} (answered : rAt inp d = some word) :
    ∃ c addr, c + 2 ≤ d ∧ arAt inp c = some addr ∧
      (history (arAt inp) c).length = (history (rAt inp) d).length ∧
      word = (inp (c + 1)).rdData := by
  obtain ⟨fires, carried⟩ := rAt_fires inp answered
  have valid : (machine.run inp d).rvalidQ = true := (Bool.and_eq_true_iff.mp fires).1
  have count := ar_conserved inp d
  rw [outstanding, valid, Bool.or_true, Bool.toNat_true] at count
  have some : history (arAt inp) d ≠ [] := by
    intro empty
    rw [empty] at count
    simp at count
  obtain ⟨c, addr, hcd, asked, quiet⟩ := exists_latest some
  have latest : history (arAt inp) d = history (arAt inp) (c + 1) :=
    history_quiet hcd fun e h₁ h₂ => quiet e h₁ h₂
  rw [latest, history_succ_some asked, List.length_append, List.length_singleton] at count
  -- the sample is not offered before its second cycle
  have sampled : c + 2 ≤ d := by
    by_contra early
    obtain rfl : d = c + 1 := by omega
    rw [(sampling_after inp asked).2.1] at valid
    cases valid
  have before := answered_before inp asked
  have untaken : ∀ e, c + 2 ≤ e → e < d → rAt inp e = none := fun e h₁ h₂ =>
    quiet_of_length_eq (by omega) h₁ h₂
  refine ⟨c, addr, sampled, asked, by omega, ?_⟩
  rw [← carried]
  exact (offered_until inp asked sampled untaken).2

end Window

theorem arAt_outstanding (inp : Nat → Input addrWidth dataWidth) {t : Nat}
    (waiting : (machine.run inp t).outstanding = true) : arAt inp t = none := by
  rw [arAt_none, arFire, sAxiArready, ← Bool.not_or]
  change (_ && !(machine.run inp t).outstanding) = false
  rw [waiting]
  exact Bool.and_false _

/-- In every run: an answer carries the word that the bank showed in the cycle after
the address handshake of the same number, when the bank was shown that address; the
address stays until the next one is taken in; a read that is asked and not answered is
either waiting or offered; and until it is answered no other one is taken in. -/
theorem read_channel_in_order (inp : Nat → Input addrWidth dataWidth) :
    (∀ d word, rAt inp d = some word →
      ∃ c addr, c + 2 ≤ d ∧ arAt inp c = some addr ∧
        (history (arAt inp) c).length = (history (rAt inp) d).length ∧
        word = (inp (c + 1)).rdData ∧ (machine.run inp (c + 1)).rdAddr = addr) ∧
    (∀ c addr, arAt inp c = some addr → ∀ d, c < d →
      (∀ e, c < e → e < d → arAt inp e = none) → (machine.run inp d).rdAddr = addr) ∧
    (∀ t, let s := machine.run inp t
      (history (arAt inp) t).length =
          (history (rAt inp) t).length + (if s.readPending || s.rvalidQ then 1 else 0) ∧
        ¬ (s.readPending = true ∧ s.rvalidQ = true)) ∧
    (∀ t, (history (rAt inp) t).length < (history (arAt inp) t).length →
      arAt inp t = none) := by
  refine ⟨?_, fun c addr asked d later none => rdAddr_until inp asked later none, ?_, ?_⟩
  · intro d word answered
    obtain ⟨c, addr, sampled, asked, number, carried⟩ := asked_of_answered inp answered
    exact ⟨c, addr, sampled, asked, number, carried, (sampling_after inp asked).2.2⟩
  · intro t s
    constructor
    · rw [ar_conserved]
      change _ + s.outstanding.toNat = _ + if s.outstanding then 1 else 0
      cases s.outstanding <;> rfl
    · intro both
      have pending := (readExclusive_run inp t).not_pending both.2
      exact absurd both.1 (by rw [pending]; exact Bool.false_ne_true)
  · intro t behind
    have count := ar_conserved inp t
    apply arAt_outstanding inp
    apply Bool.toNat_eq_one.mp
    have atMost := Bool.toNat_le (machine.run inp t).outstanding
    omega

end AxiAlu.Axi4LiteSlave
