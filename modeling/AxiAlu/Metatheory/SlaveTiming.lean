import AxiAlu.Clocked.Numbered
import AxiAlu.Metatheory.SlaveReadChannel
import AxiAlu.Metatheory.SlaveWriteChannel

/-!
The slave in time. In which cycle the handshake or the pulse of a given number comes
is fixed by the cycles of the others and by the valid and ready inputs alone: each
comes as early as its buffer and its partner let it. The counts of the two channels
say when that is, so no state of the slave is looked at again.
-/
namespace AxiAlu.Axi4LiteSlave
open Clocked
variable {addrWidth dataWidth : Nat}

section Streams
variable (inp : Nat → Input addrWidth dataWidth)

theorem pairs_count (t : Nat) :
    (history (awAt inp) t).length =
        (history (pairAt inp) t).length + (machine.run inp t).awV.toNat ∧
      (history (wAt inp) t).length =
        (history (pairAt inp) t).length + (machine.run inp t).wV.toNat := by
  rw [← history_pulseAt_succ]
  exact ⟨aw_count inp t, w_count inp t⟩

/-- An address is taken in whenever one is offered and the buffer is free. -/
theorem awAt_prompt : Prompt (awAt inp) fun k t =>
    (inp t).sAxiAwvalid = true ∧ k ≤ (history (pairAt inp) t).length := by
  intro t
  dsimp only
  rw [(pairs_count inp t).1, awAt, observe, awFire, sAxiAwready]
  cases (inp t).sAxiAwvalid <;> cases (machine.run inp t).awV <;> simp

theorem wAt_prompt : Prompt (wAt inp) fun k t =>
    (inp t).sAxiWvalid = true ∧ k ≤ (history (pairAt inp) t).length := by
  intro t
  dsimp only
  rw [(pairs_count inp t).2, wAt, observe, wFire, sAxiWready]
  cases (inp t).sAxiWvalid <;> cases (machine.run inp t).wV <;> simp

/-- A pair leaves the buffers when both are full and the response before it is taken. -/
theorem pairAt_prompt : Prompt (pairAt inp) fun k t =>
    PastNth (awAt inp) k t ∧ PastNth (wAt inp) k t ∧ k ≤ (history (bAt inp) t).length := by
  intro t
  dsimp only
  have b := b_conserved inp t
  rw [PastNth, PastNth, (pairs_count inp t).1, (pairs_count inp t).2, b, pairAt, observe, pairs]
  cases (machine.run inp t).awV <;> cases (machine.run inp t).wV <;>
    cases (machine.run inp t).bvalidQ <;> simp

theorem bAt_prompt : Prompt (bAt inp) fun k t =>
    (inp t).sAxiBready = true ∧ PastNth (pairAt inp) k t := by
  intro t
  dsimp only
  rw [PastNth, b_conserved inp t, bAt, observe, bFire, sAxiBvalid]
  cases (inp t).sAxiBready <;> cases (machine.run inp t).bvalidQ <;> simp

theorem arAt_prompt : Prompt (arAt inp) fun k t =>
    (inp t).sAxiArvalid = true ∧ k ≤ (history (rAt inp) t).length := by
  intro t
  dsimp only
  rw [ar_conserved inp t, arAt, observe, arFire, sAxiArready, outstanding]
  cases (inp t).sAxiArvalid <;> cases (machine.run inp t).readPending <;>
    cases (machine.run inp t).rvalidQ <;> simp

def sampleAt : Nat → Option (BitVec dataWidth) :=
  observe (fun c => (machine.run inp c).readPending) (fun c => (inp c).rdData)

theorem sampleAt_succ (c : Nat) : (sampleAt inp (c + 1)).isSome = (arAt inp c).isSome := by
  rw [sampleAt, arAt, observe, observe, Machine.run_succ]
  change Option.isSome (if ((machine.run inp c).step (inp c)).readPending then _ else _) = _
  rw [step_readPending]
  cases (machine.run inp c).arFire (inp c) <;> rfl

/-- Every word that was sampled has been handed over or is offered. -/
theorem sample_count (t : Nat) :
    (history (sampleAt inp) t).length =
      (history (rAt inp) t).length + (machine.run inp t).rvalidQ.toNat := by
  have asked := ar_conserved inp t
  have sampled : (history (sampleAt inp) (t + 1)).length = (history (arAt inp) t).length := by
    refine history_length_delay 1 (fun c early => ?_) (sampleAt_succ inp) t
    obtain rfl : c = 0 := by omega
    rfl
  have pending := length_history_observe_succ (fun c => (machine.run inp c).readPending)
    (fun c => (inp c).rdData) t
  change (history (sampleAt inp) (t + 1)).length = (history (sampleAt inp) t).length + _ at pending
  have exclusive := readExclusive_run inp t
  simp only [ReadExclusive, outstanding] at exclusive asked
  cases hp : (machine.run inp t).readPending <;> cases hv : (machine.run inp t).rvalidQ <;>
    simp_all

theorem rAt_prompt : Prompt (rAt inp) fun k t =>
    (inp t).sAxiRready = true ∧ PastNth (sampleAt inp) k t := by
  intro t
  dsimp only
  rw [PastNth, sample_count inp t, rAt, observe, rFire, sAxiRvalid]
  cases (inp t).sAxiRready <;> cases (machine.run inp t).rvalidQ <;> simp

end Streams

section Cycles
variable (inp : Nat → Input addrWidth dataWidth) {k t : Nat}

theorem nthAt_pulse : NthAt (pulseAt inp) k t ↔ ∃ c, NthAt (pairAt inp) k c ∧ t = c + 1 := by
  refine nthAt_delay 1 (fun c early => ?_) (fun c => by rw [pulseAt_succ])
  obtain rfl : c = 0 := by omega
  rfl

theorem nthAt_sample : NthAt (sampleAt inp) k t ↔ ∃ c, NthAt (arAt inp) k c ∧ t = c + 1 := by
  refine nthAt_delay 1 (fun c early => ?_) (sampleAt_succ inp)
  obtain rfl : c = 0 := by omega
  rfl

theorem pastNth_pair : PastNth (pairAt inp) k t ↔ ∃ p, p ≤ t ∧ NthAt (pulseAt inp) k p := by
  rw [pastNth_iff]
  constructor
  · rintro ⟨c, before, left⟩
    exact ⟨c + 1, before, (nthAt_pulse inp).mpr ⟨c, left, rfl⟩⟩
  · rintro ⟨p, before, pulsed⟩
    obtain ⟨c, left, rfl⟩ := (nthAt_pulse inp).mp pulsed
    exact ⟨c, before, left⟩

theorem pastNth_sample : PastNth (sampleAt inp) k t ↔ ∃ a, a + 2 ≤ t ∧ NthAt (arAt inp) k a := by
  rw [pastNth_iff]
  constructor
  · rintro ⟨c, before, sampled⟩
    obtain ⟨a, asked, rfl⟩ := (nthAt_sample inp).mp sampled
    exact ⟨a, before, asked⟩
  · rintro ⟨a, before, asked⟩
    exact ⟨a + 1, before, (nthAt_sample inp).mpr ⟨a, asked, rfl⟩⟩

theorem pairs_left_iff : k ≤ (history (pairAt inp) t).length ↔
    ∀ j, j < k → ∃ p, p ≤ t ∧ NthAt (pulseAt inp) j p := by
  simp only [le_history_length_iff, pastNth_pair]

end Cycles

section Laws
variable (inp : Nat → Input addrWidth dataWidth) (k c : Nat)

theorem nthAt_aw : NthAt (awAt inp) k c ↔
    IsLeast {t | (∀ j, j < k → ∃ p, p ≤ t ∧ NthAt (pulseAt inp) j p) ∧
      (inp t).sAxiAwvalid = true} c := by
  refine (awAt_prompt inp).nthAt_iff_of (fun t => ?_) c
  have ahead := (pairs_count inp t).1
  rw [← pairs_left_iff]
  constructor
  · rintro ⟨_, valid, free⟩
    exact ⟨free, valid⟩
  · rintro ⟨free, valid⟩
    exact ⟨by omega, valid, free⟩

theorem nthAt_w : NthAt (wAt inp) k c ↔
    IsLeast {t | (∀ j, j < k → ∃ p, p ≤ t ∧ NthAt (pulseAt inp) j p) ∧
      (inp t).sAxiWvalid = true} c := by
  refine (wAt_prompt inp).nthAt_iff_of (fun t => ?_) c
  have ahead := (pairs_count inp t).2
  rw [← pairs_left_iff]
  constructor
  · rintro ⟨_, valid, free⟩
    exact ⟨free, valid⟩
  · rintro ⟨free, valid⟩
    exact ⟨by omega, valid, free⟩

theorem nthAt_b : NthAt (bAt inp) k c ↔
    IsLeast {t | (∃ p, p ≤ t ∧ NthAt (pulseAt inp) k p) ∧ (inp t).sAxiBready = true} c := by
  refine (bAt_prompt inp).nthAt_iff_of (fun t => ?_) c
  have pending := b_conserved inp t
  have atMost := Bool.toNat_le (machine.run inp t).bvalidQ
  rw [← pastNth_pair, PastNth]
  constructor
  · rintro ⟨_, ready, left⟩
    exact ⟨left, ready⟩
  · rintro ⟨left, ready⟩
    exact ⟨by omega, ready, left⟩

theorem nthAt_pair : NthAt (pairAt inp) k c ↔
    IsLeast {t | PastNth (awAt inp) k t ∧ PastNth (wAt inp) k t ∧
      ∀ j, j < k → PastNth (bAt inp) j t} c := by
  refine (pairAt_prompt inp).nthAt_iff_of (fun t => ?_) c
  have pending := b_conserved inp t
  rw [← le_history_length_iff]
  constructor
  · rintro ⟨_, aw, w, answered⟩
    exact ⟨aw, w, answered⟩
  · rintro ⟨aw, w, answered⟩
    exact ⟨by omega, aw, w, answered⟩

theorem nthAt_ar : NthAt (arAt inp) k c ↔
    IsLeast {t | (∀ j, j < k → PastNth (rAt inp) j t) ∧ (inp t).sAxiArvalid = true} c := by
  refine (arAt_prompt inp).nthAt_iff_of (fun t => ?_) c
  have ahead := ar_conserved inp t
  rw [← le_history_length_iff]
  constructor
  · rintro ⟨_, valid, free⟩
    exact ⟨free, valid⟩
  · rintro ⟨free, valid⟩
    exact ⟨by omega, valid, free⟩

theorem nthAt_r : NthAt (rAt inp) k c ↔
    IsLeast {t | PastNth (sampleAt inp) k t ∧ (inp t).sAxiRready = true} c := by
  refine (rAt_prompt inp).nthAt_iff_of (fun t => ?_) c
  have offered := sample_count inp t
  have atMost := Bool.toNat_le (machine.run inp t).rvalidQ
  rw [PastNth]
  constructor
  · rintro ⟨_, ready, sampled⟩
    exact ⟨sampled, ready⟩
  · rintro ⟨sampled, ready⟩
    exact ⟨by omega, ready, sampled⟩

end Laws

/-- A write is pulsed two cycles after the last of its address, its word and the
response before it. -/
theorem nthAt_pulse_iff (inp : Nat → Input addrWidth dataWidth) (k c : Nat) :
    NthAt (pulseAt inp) k c ↔
      IsLeast {t | (∃ a, a + 2 ≤ t ∧ NthAt (awAt inp) k a) ∧
        (∃ w, w + 2 ≤ t ∧ NthAt (wAt inp) k w) ∧
        ∀ j, j < k → ∃ b, b + 2 ≤ t ∧ NthAt (bAt inp) j b} c := by
  rw [nthAt_pulse, isLeast_delay 1]
  · simp only [nthAt_pair]
    rfl
  · rintro t early ⟨⟨a, before, _⟩, _⟩
    omega
  · intro t
    simp only [Set.mem_ofPred_eq, pastNth_iff_delay 1]

/-- A word is handed over as soon as the master is ready, from the second cycle after
its address on. -/
theorem nthAt_r_iff (inp : Nat → Input addrWidth dataWidth) (k c : Nat) :
    NthAt (rAt inp) k c ↔
      IsLeast {t | (∃ a, a + 2 ≤ t ∧ NthAt (arAt inp) k a) ∧ (inp t).sAxiRready = true} c := by
  simp only [nthAt_r, pastNth_sample]

/-- The write channel in time: an address and a word are taken in as soon as they are
offered and the pair before them has left; a write is pulsed two cycles after the last
of its address, its word and the response before it; and its response is handed over
as soon as the master is ready from then on. -/
theorem write_channel_timing (inp : Nat → Input addrWidth dataWidth) (k c : Nat) :
    (NthAt (awAt inp) k c ↔
      IsLeast {t | (∀ j, j < k → ∃ p, p ≤ t ∧ NthAt (pulseAt inp) j p) ∧
        (inp t).sAxiAwvalid = true} c) ∧
    (NthAt (wAt inp) k c ↔
      IsLeast {t | (∀ j, j < k → ∃ p, p ≤ t ∧ NthAt (pulseAt inp) j p) ∧
        (inp t).sAxiWvalid = true} c) ∧
    (NthAt (pulseAt inp) k c ↔
      IsLeast {t | (∃ a, a + 2 ≤ t ∧ NthAt (awAt inp) k a) ∧
        (∃ w, w + 2 ≤ t ∧ NthAt (wAt inp) k w) ∧
        ∀ j, j < k → ∃ b, b + 2 ≤ t ∧ NthAt (bAt inp) j b} c) ∧
    (NthAt (bAt inp) k c ↔
      IsLeast {t | (∃ p, p ≤ t ∧ NthAt (pulseAt inp) k p) ∧ (inp t).sAxiBready = true} c) :=
  ⟨nthAt_aw inp k c, nthAt_w inp k c, nthAt_pulse_iff inp k c, nthAt_b inp k c⟩

/-- The read channel in time: an address is taken in as soon as it is offered and the
word before it is handed over, and its word is handed over as soon as the master is
ready, from the second cycle after the address on. -/
theorem read_channel_timing (inp : Nat → Input addrWidth dataWidth) (k c : Nat) :
    (NthAt (arAt inp) k c ↔
      IsLeast {t | (∀ j, j < k → ∃ d, d < t ∧ NthAt (rAt inp) j d) ∧
        (inp t).sAxiArvalid = true} c) ∧
    (NthAt (rAt inp) k c ↔
      IsLeast {t | (∃ a, a + 2 ≤ t ∧ NthAt (arAt inp) k a) ∧ (inp t).sAxiRready = true} c) := by
  refine ⟨?_, nthAt_r_iff inp k c⟩
  simp only [nthAt_ar, pastNth_iff]

end AxiAlu.Axi4LiteSlave
