import AxiAlu.Metatheory.SlaveTiming
import Mathlib.Order.Filter.AtTopBot.Basic

/-!
What the timing of the slave comes to. A master that is ready again and again sees
all of its transactions completed, and one that also offers again and again sees as
many as it likes; and the slave has a highest speed, which a master that never
hesitates reaches.
-/
namespace AxiAlu.Axi4LiteSlave
open Clocked Filter
variable {addrWidth dataWidth : Nat}

section Progress
variable {inp : Nat → Input addrWidth dataWidth} {k : Nat}

theorem exists_up_from {up : Nat → Bool} (again : ∃ᶠ t in atTop, up t = true) (n : Nat) :
    ∃ t, n ≤ t ∧ up t = true :=
  frequently_atTop.mp again n

theorem exists_b_of_pulse (ready : ∃ᶠ t in atTop, (inp t).sAxiBready = true) {p : Nat}
    (pulsed : NthAt (pulseAt inp) k p) : ∃ b, NthAt (bAt inp) k b := by
  obtain ⟨t, later, up⟩ := exists_up_from ready p
  exact exists_nthAt_of_mem (nthAt_b inp k) ⟨⟨p, later, pulsed⟩, up⟩

theorem exists_pulse {a w n : Nat} (aw : NthAt (awAt inp) k a) (word : NthAt (wAt inp) k w)
    (answered : ∀ j, j < k → PastNth (bAt inp) j n) : ∃ p, NthAt (pulseAt inp) k p := by
  let late := a + w + n + 1
  have member : late ∈ {t | PastNth (awAt inp) k t ∧ PastNth (wAt inp) k t ∧
      ∀ j, j < k → PastNth (bAt inp) j t} :=
    ⟨aw.past (by omega), word.past (by omega), fun j lower => (answered j lower).mono (by omega)⟩
  obtain ⟨c, left⟩ := exists_nthAt_of_mem (nthAt_pair inp k) member
  exact ⟨c + 1, (nthAt_pulse inp).mpr ⟨c, left, rfl⟩⟩

/-- A write that is taken in is answered, by induction on its number: the writes before it
are taken in, and so answered. -/
theorem exists_b (ready : ∃ᶠ t in atTop, (inp t).sAxiBready = true)
    (aw : ∃ a, NthAt (awAt inp) k a) (word : ∃ w, NthAt (wAt inp) k w) :
    ∃ b, NthAt (bAt inp) k b := by
  induction k with
  | zero =>
      obtain ⟨a, aw⟩ := aw
      obtain ⟨w, word⟩ := word
      obtain ⟨p, pulsed⟩ := exists_pulse (n := 0) aw word
        fun j lower => absurd lower (Nat.not_lt_zero j)
      exact exists_b_of_pulse ready pulsed
  | succ k ih =>
      obtain ⟨a, aw⟩ := aw
      obtain ⟨w, word⟩ := word
      obtain ⟨a', _, aw'⟩ := ((aw.past (Nat.lt_succ_self a)).of_le (Nat.le_succ k)).exists_nthAt
      obtain ⟨w', _, word'⟩ := ((word.past (Nat.lt_succ_self w)).of_le (Nat.le_succ k)).exists_nthAt
      obtain ⟨b, answered⟩ := ih ⟨a', aw'⟩ ⟨w', word'⟩
      obtain ⟨p, pulsed⟩ := exists_pulse aw word fun j lower =>
        (answered.past (Nat.lt_succ_self b)).of_le (Nat.le_of_lt_succ lower)
      exact exists_b_of_pulse ready pulsed

theorem exists_b_of_offers (ready : ∃ᶠ t in atTop, (inp t).sAxiBready = true)
    (addresses : ∃ᶠ t in atTop, (inp t).sAxiAwvalid = true)
    (words : ∃ᶠ t in atTop, (inp t).sAxiWvalid = true) (k : Nat) :
    ∃ b, NthAt (bAt inp) k b := by
  have free : ∀ k n, (∀ j, j < k → ∃ p, p ≤ n ∧ NthAt (pulseAt inp) j p) →
      ∃ b, NthAt (bAt inp) k b := by
    intro k n freed
    obtain ⟨t, later, up⟩ := exists_up_from addresses n
    obtain ⟨t', later', up'⟩ := exists_up_from words n
    have freedBy : ∀ t, n ≤ t → ∀ j, j < k → ∃ p, p ≤ t ∧ NthAt (pulseAt inp) j p := by
      intro t later j lower
      obtain ⟨p, before, pulsed⟩ := freed j lower
      exact ⟨p, by omega, pulsed⟩
    exact exists_b ready (exists_nthAt_of_mem (nthAt_aw inp k) ⟨freedBy t later, up⟩)
      (exists_nthAt_of_mem (nthAt_w inp k) ⟨freedBy t' later', up'⟩)
  induction k with
  | zero => exact free 0 0 fun j lower => absurd lower (Nat.not_lt_zero j)
  | succ k ih =>
      obtain ⟨b, answered⟩ := ih
      refine free (k + 1) b fun j lower => ?_
      obtain ⟨b', _, answered'⟩ :=
        ((answered.past (Nat.lt_succ_self b)).of_le (Nat.le_of_lt_succ lower)).exists_nthAt
      obtain ⟨⟨⟨p, before, pulsed⟩, _⟩, _⟩ := (nthAt_b inp j b').mp answered'
      exact ⟨p, by omega, pulsed⟩

theorem exists_r (ready : ∃ᶠ t in atTop, (inp t).sAxiRready = true) {a : Nat}
    (asked : NthAt (arAt inp) k a) : ∃ d, NthAt (rAt inp) k d := by
  obtain ⟨t, later, up⟩ := exists_up_from ready (a + 2)
  exact exists_nthAt_of_mem (nthAt_r_iff inp k) ⟨⟨a, later, asked⟩, up⟩

theorem exists_r_of_offers (ready : ∃ᶠ t in atTop, (inp t).sAxiRready = true)
    (addresses : ∃ᶠ t in atTop, (inp t).sAxiArvalid = true) (k : Nat) :
    ∃ d, NthAt (rAt inp) k d := by
  have free : ∀ k n, (∀ j, j < k → PastNth (rAt inp) j n) → ∃ d, NthAt (rAt inp) k d := by
    intro k n answered
    obtain ⟨t, later, up⟩ := exists_up_from addresses n
    obtain ⟨a, asked⟩ := exists_nthAt_of_mem (nthAt_ar inp k)
      ⟨fun j lower => (answered j lower).mono later, up⟩
    exact exists_r ready asked
  induction k with
  | zero => exact free 0 0 fun j lower => absurd lower (Nat.not_lt_zero j)
  | succ k ih =>
      obtain ⟨d, answered⟩ := ih
      exact free (k + 1) (d + 1) fun j lower =>
        (answered.past (Nat.lt_succ_self d)).of_le (Nat.le_of_lt_succ lower)

end Progress

/-- No transaction is left hanging: while the master is ready for responses and for
words again and again, every write whose address and word are taken in is answered and
so is every read; and while it offers again and again, there is no last write and no
last read. -/
theorem transactions_complete (inp : Nat → Input addrWidth dataWidth)
    (bready : ∃ᶠ t in atTop, (inp t).sAxiBready = true)
    (rready : ∃ᶠ t in atTop, (inp t).sAxiRready = true) :
    (∀ k, (∃ a, NthAt (awAt inp) k a) → (∃ w, NthAt (wAt inp) k w) → ∃ b, NthAt (bAt inp) k b) ∧
    (∀ k, (∃ a, NthAt (arAt inp) k a) → ∃ d, NthAt (rAt inp) k d) ∧
    ((∃ᶠ t in atTop, (inp t).sAxiAwvalid = true) →
      (∃ᶠ t in atTop, (inp t).sAxiWvalid = true) → ∀ k, ∃ b, NthAt (bAt inp) k b) ∧
    ((∃ᶠ t in atTop, (inp t).sAxiArvalid = true) → ∀ k, ∃ d, NthAt (rAt inp) k d) := by
  refine ⟨fun k => exists_b bready, ?_, exists_b_of_offers bready, exists_r_of_offers rready⟩
  rintro k ⟨a, asked⟩
  exact exists_r rready asked

def eager : Nat → Input 6 32 := fun _ =>
  { sAxiAwaddr := 0x08, sAxiAwvalid := true, sAxiWdata := 5, sAxiWstrb := 0b1111
    sAxiWvalid := true, sAxiBready := true, sAxiAraddr := 0x08, sAxiArvalid := true
    sAxiRready := true, rdData := 7 }

theorem transactions_complete_eager :
    (∃ b, NthAt (bAt eager) 9 b) ∧ ∃ d, NthAt (rAt eager) 9 d := by
  have up : ∀ n, ∃ t, n ≤ t ∧ true = true := fun n => ⟨n, Nat.le_refl n, rfl⟩
  obtain ⟨_, _, writes, reads⟩ :=
    transactions_complete eager (frequently_atTop.mpr up) (frequently_atTop.mpr up)
  exact ⟨writes (frequently_atTop.mpr up) (frequently_atTop.mpr up) 9,
    reads (frequently_atTop.mpr up) 9⟩

section Speed
variable (inp : Nat → Input addrWidth dataWidth)

theorem pulse_spacing {k p p' : Nat} (pulsed : NthAt (pulseAt inp) k p)
    (pulsed' : NthAt (pulseAt inp) (k + 1) p') : p + 2 ≤ p' := by
  obtain ⟨⟨_, _, answered⟩, _⟩ := (nthAt_pulse_iff inp (k + 1) p').mp pulsed'
  obtain ⟨b, after, answered⟩ := answered k (Nat.lt_succ_self k)
  obtain ⟨⟨⟨q, before, pulsed''⟩, _⟩, _⟩ := (nthAt_b inp k b).mp answered
  have same := pulsed.unique pulsed''
  omega

theorem word_spacing {k d d' : Nat} (answered : NthAt (rAt inp) k d)
    (answered' : NthAt (rAt inp) (k + 1) d') : d + 3 ≤ d' := by
  obtain ⟨⟨⟨a, after, asked⟩, _⟩, _⟩ := (nthAt_r_iff inp (k + 1) d').mp answered'
  obtain ⟨⟨free, _⟩, _⟩ := (nthAt_ar inp (k + 1) a).mp asked
  have past := answered.past_iff.mp (free k (Nat.lt_succ_self k))
  omega

theorem eager_pulse (offers : ∀ t, (inp t).sAxiAwvalid = true ∧ (inp t).sAxiWvalid = true ∧
    (inp t).sAxiBready = true) (k : Nat) : NthAt (pulseAt inp) k (2 * k + 2) := by
  have ready := fun t => (offers t).2.2
  induction k using Nat.strongRecOn with
  | ind k ih =>
      -- The buffers are free from the pulse before on, which is cycle `2 * k`.
      have taken : IsLeast {t | ∀ j, j < k → ∃ p, p ≤ t ∧ NthAt (pulseAt inp) j p} (2 * k) := by
        refine ⟨fun j lower => ⟨_, by omega, ih j lower⟩, fun t free => ?_⟩
        cases k with
        | zero => omega
        | succ k =>
            obtain ⟨p, before, pulsed⟩ := free k (Nat.lt_succ_self k)
            have same := pulsed.unique (ih k (Nat.lt_succ_self k))
            omega
      have aw : NthAt (awAt inp) k (2 * k) := by
        rw [nthAt_aw]
        simpa [offers] using taken
      have word : NthAt (wAt inp) k (2 * k) := by
        rw [nthAt_w]
        simpa [offers] using taken
      rw [nthAt_pulse_iff]
      refine ⟨⟨⟨_, Nat.le_refl _, aw⟩, ⟨_, Nat.le_refl _, word⟩, fun j lower => ?_⟩, ?_⟩
      · refine ⟨2 * j + 2, by omega, ?_⟩
        rw [nthAt_b]
        refine ⟨⟨⟨_, Nat.le_refl _, ih j lower⟩, ready _⟩, ?_⟩
        rintro t ⟨⟨p, before, pulsed⟩, _⟩
        have same := pulsed.unique (ih j lower)
        omega
      · rintro t ⟨⟨a, before, aw'⟩, _⟩
        have same := aw.unique aw'
        omega

theorem eager_word (offers : ∀ t, (inp t).sAxiArvalid = true ∧ (inp t).sAxiRready = true)
    (k : Nat) : NthAt (rAt inp) k (3 * k + 2) := by
  induction k using Nat.strongRecOn with
  | ind k ih =>
      have asked : NthAt (arAt inp) k (3 * k) := by
        rw [nthAt_ar]
        refine ⟨⟨fun j lower => (ih j lower).past (by omega), (offers _).1⟩, ?_⟩
        rintro t ⟨free, _⟩
        cases k with
        | zero => omega
        | succ k =>
            have past := (ih k (Nat.lt_succ_self k)).past_iff.mp (free k (Nat.lt_succ_self k))
            omega
      rw [nthAt_r_iff]
      refine ⟨⟨⟨_, Nat.le_refl _, asked⟩, (offers _).2⟩, ?_⟩
      rintro t ⟨⟨a, before, asked'⟩, _⟩
      have same := asked.unique asked'
      omega

end Speed

/-- The speed of the slave: whatever its master does, pulses are two cycles apart and
words three, so that the write of number `k` comes in cycle `2 * k + 2` at the earliest
and the word of number `k` in cycle `3 * k + 2`; a master that offers and is ready in
every cycle gets them then, whatever it transfers. -/
theorem full_speed (inp : Nat → Input addrWidth dataWidth) (k : Nat) :
    (∀ p, NthAt (pulseAt inp) k p → 2 * k + 2 ≤ p ∧
      ∀ p', NthAt (pulseAt inp) (k + 1) p' → p + 2 ≤ p') ∧
    (∀ d, NthAt (rAt inp) k d → 3 * k + 2 ≤ d ∧
      ∀ d', NthAt (rAt inp) (k + 1) d' → d + 3 ≤ d') ∧
    ((∀ t, (inp t).sAxiAwvalid = true ∧ (inp t).sAxiWvalid = true ∧
      (inp t).sAxiBready = true) → NthAt (pulseAt inp) k (2 * k + 2)) ∧
    ((∀ t, (inp t).sAxiArvalid = true ∧ (inp t).sAxiRready = true) →
      NthAt (rAt inp) k (3 * k + 2)) := by
  refine ⟨fun p pulsed => ⟨?_, fun p' => pulse_spacing inp pulsed⟩,
    fun d answered => ⟨?_, fun d' => word_spacing inp answered⟩,
    fun offers => eager_pulse inp offers k, fun offers => eager_word inp offers k⟩
  · refine pulsed.spaced_from (fun c first => ?_) fun k p p' => pulse_spacing inp
    obtain ⟨⟨⟨a, after, _⟩, _⟩, _⟩ := (nthAt_pulse_iff inp 0 c).mp first
    omega
  · refine answered.spaced_from (fun c first => ?_) fun k d d' => word_spacing inp
    obtain ⟨⟨⟨a, after, _⟩, _⟩, _⟩ := (nthAt_r_iff inp 0 c).mp first
    omega

end AxiAlu.Axi4LiteSlave
