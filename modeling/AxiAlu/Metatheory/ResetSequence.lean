import AxiAlu.Rtl.ResetController
import Mathlib.Tactic.Common

/-!
When the reset controller holds the peripheral in reset, and what the peripheral does
from one reset to the next. Taken at the end of a cycle the synchronizer is a shift
register of the reset requests; behind it every register of the controller is the
register before it one cycle later, up to the feedback of `r_sync_rst`.
-/
namespace AxiAlu
open Clocked

/-- The reset input is high at some time from the edge that begins a cycle to the one
that ends it. -/
def requestedAt (line : Nat → ResetLine) : Nat → Bool
  | 0 => line 0 ≠ .low
  | t + 1 => line (t + 1) ≠ .low || line t = .high

namespace AlteraResetSynchronizer
variable (s : AlteraResetSynchronizer) (now next : ResetLine)

theorem atEdge_step_first :
    ((s.step now).atEdge next).intChain.getLsbD 1 = (next ≠ .low || now = .high) := by
  cases next <;> cases now <;> simp [step, atEdge, set]

theorem atEdge_step_second :
    ((s.step now).atEdge next).intChain.getLsbD 0 =
      ((next ≠ .low || now = .high) || (s.atEdge now).intChain.getLsbD 1) := by
  cases next <;> cases now <;> simp [step, atEdge, set]

theorem resetOut_step :
    (s.step now).resetOut next =
      ((next ≠ .low || now = .high) || (s.atEdge now).intChain.getLsbD 0) := by
  cases next <;> cases now <;> simp [resetOut, step, atEdge, set]

end AlteraResetSynchronizer

namespace AlteraResetController
variable (synchronizer : AlteraResetSynchronizer) (line : Nat → ResetLine)

theorem nextSyncRst_eq (dly chain sync : Bool) :
    nextSyncRst dly chain sync = (dly || (chain && sync)) := by
  cases dly <;> cases chain <;> cases sync <;> rfl

theorem nextEarlyRst_eq (chain : Bool) : nextEarlyRst chain chain = chain := by
  cases chain <;> rfl

def stateAt (t : Nat) : AlteraResetController := (machine synchronizer).run line t

def synchronizerAt (t : Nat) : AlteraResetSynchronizer :=
  (stateAt synchronizer line t).altRstSyncUq1.atEdge (line t)

/-- The tap of `r_sync_rst_chain` that drives both outputs. -/
def tapAt (t : Nat) : Bool := (stateAt synchronizer line t).rSyncRstChain.getLsbD 1

def resetOutAt (t : Nat) : Bool := (stateAt synchronizer line t).resetOut
def resetReqAt (t : Nat) : Bool := (stateAt synchronizer line t).resetReq

theorem stateAt_zero : stateAt synchronizer line 0 = powerUp synchronizer := rfl

theorem stateAt_succ (t : Nat) :
    stateAt synchronizer line (t + 1) = (stateAt synchronizer line t).step (line t) := rfl

variable {synchronizer line}

theorem first_succ (t : Nat) :
    (synchronizerAt synchronizer line (t + 1)).intChain.getLsbD 1 = requestedAt line (t + 1) :=
  AlteraResetSynchronizer.atEdge_step_first _ _ _

theorem second_succ (t : Nat) :
    (synchronizerAt synchronizer line (t + 1)).intChain.getLsbD 0 =
      (requestedAt line (t + 1) || (synchronizerAt synchronizer line t).intChain.getLsbD 1) :=
  AlteraResetSynchronizer.atEdge_step_second _ _ _

theorem out_succ (t : Nat) :
    (synchronizerAt synchronizer line (t + 1)).intChainOut =
      (requestedAt line (t + 1) || (synchronizerAt synchronizer line t).intChain.getLsbD 0) :=
  AlteraResetSynchronizer.resetOut_step _ _ _

/-- A request sets the whole synchronizer, whatever it has been powered up with. -/
theorem synchronizerAt_of_requested {t : Nat} (asked : requestedAt line t = true) :
    synchronizerAt synchronizer line t = AlteraResetSynchronizer.set := by
  cases t with
  | zero =>
      have high : line 0 ≠ .low := by simpa [requestedAt] using asked
      rw [synchronizerAt, AlteraResetSynchronizer.atEdge, if_neg high]
  | succ t =>
      by_cases low : line (t + 1) = .low
      · have held : line t = .high := by simpa [requestedAt, low] using asked
        rw [synchronizerAt, AlteraResetSynchronizer.atEdge, if_pos low, stateAt_succ]
        exact if_pos held
      · rw [synchronizerAt, AlteraResetSynchronizer.atEdge, if_neg low]

theorem out_of_requested {r t : Nat} (asked : requestedAt line r = true) (from_r : r ≤ t)
    (to_r : t ≤ r + 2) : (synchronizerAt synchronizer line t).intChainOut = true := by
  have set : synchronizerAt synchronizer line r = AlteraResetSynchronizer.set :=
    synchronizerAt_of_requested asked
  obtain rfl | rfl | rfl : t = r ∨ t = r + 1 ∨ t = r + 2 := by omega
  · rw [set]; rfl
  · rw [out_succ, set]; simp [AlteraResetSynchronizer.set]
  · rw [out_succ, second_succ, set]; simp [AlteraResetSynchronizer.set]

/-- The first register behind the synchronizer is up in the three cycles from a request on
and in no others. -/
theorem out_iff {t : Nat} (late : 3 ≤ t) :
    (synchronizerAt synchronizer line t).intChainOut = true ↔
      ∃ r, r ≤ t ∧ t ≤ r + 2 ∧ requestedAt line r = true := by
  constructor
  · obtain ⟨u, rfl⟩ := Nat.exists_eq_add_of_le' late
    intro up
    rw [out_succ, second_succ, first_succ, Bool.or_eq_true, Bool.or_eq_true] at up
    rcases up with asked | asked | asked
    · exact ⟨u + 3, by omega, by omega, asked⟩
    · exact ⟨u + 2, by omega, by omega, asked⟩
    · exact ⟨u + 1, by omega, by omega, asked⟩
  · rintro ⟨r, from_r, to_r, asked⟩
    exact out_of_requested asked from_r to_r

theorem intChain_succ_zero (t : Nat) :
    (stateAt synchronizer line (t + 1)).intChain.getLsbD 0 =
      (synchronizerAt synchronizer line t).intChainOut := by
  rw [stateAt_succ, step]
  exact BitVec.getLsbD_concat_zero

theorem intChain_succ_succ (t : Nat) {k : Nat} (below : k < 2) :
    (stateAt synchronizer line (t + 1)).intChain.getLsbD (k + 1) =
      (stateAt synchronizer line t).intChain.getLsbD k := by
  rw [stateAt_succ, step, BitVec.getLsbD_concat_succ, BitVec.getLsbD_setWidth]
  simp [below]

theorem tapAt_succ (t : Nat) :
    tapAt synchronizer line (t + 1) = (stateAt synchronizer line t).intChain.getLsbD 2 := by
  rw [tapAt, stateAt_succ, step]
  cases (stateAt synchronizer line t).intChain.getLsbD 2 <;> simp

theorem tapAt_add_four (t : Nat) :
    tapAt synchronizer line (t + 4) = (synchronizerAt synchronizer line t).intChainOut := by
  rw [tapAt_succ, intChain_succ_succ _ Nat.one_lt_two, intChain_succ_succ _ Nat.two_pos,
    intChain_succ_zero]

theorem tapAt_powerUp {t : Nat} (early : t < 4) : tapAt synchronizer line t = true := by
  obtain rfl | rfl | rfl | rfl : t = 0 ∨ t = 1 ∨ t = 2 ∨ t = 3 := by omega
  · simp [tapAt, stateAt_zero, powerUp]
  · simp [tapAt_succ, stateAt_zero, powerUp]
  · rw [tapAt_succ, intChain_succ_succ _ Nat.one_lt_two]
    simp [stateAt_zero, powerUp]
  · rw [tapAt_succ, intChain_succ_succ _ Nat.one_lt_two, intChain_succ_succ _ Nat.two_pos]
    simp [stateAt_zero, powerUp]

theorem resetOutAt_succ (t : Nat) :
    resetOutAt synchronizer line (t + 1) =
      ((stateAt synchronizer line t).rSyncRstDly ||
        (tapAt synchronizer line t && resetOutAt synchronizer line t)) :=
  nextSyncRst_eq _ _ _

theorem resetOutAt_add_two (t : Nat) :
    resetOutAt synchronizer line (t + 2) =
      (tapAt synchronizer line t ||
        (tapAt synchronizer line (t + 1) && resetOutAt synchronizer line (t + 1))) :=
  resetOutAt_succ (t + 1)

theorem resetReqAt_succ (t : Nat) :
    resetReqAt synchronizer line (t + 1) = tapAt synchronizer line t :=
  nextEarlyRst_eq _

theorem resetOutAt_powerUp {t : Nat} (early : t < 6) :
    resetOutAt synchronizer line t = true := by
  match t with
  | 0 => rfl
  | 1 => rw [resetOutAt_succ, stateAt_zero]; rfl
  | t + 2 => rw [resetOutAt_add_two, tapAt_powerUp (by omega), Bool.true_or]

theorem tapAt_iff {t : Nat} (late : 7 ≤ t) :
    tapAt synchronizer line t = true ↔
      ∃ r, r + 4 ≤ t ∧ t ≤ r + 6 ∧ requestedAt line r = true := by
  obtain ⟨u, rfl⟩ := Nat.exists_eq_add_of_le' (show 4 ≤ t by omega)
  rw [tapAt_add_four, out_iff (by omega)]
  constructor
  · rintro ⟨r, from_r, to_r, asked⟩
    exact ⟨r, by omega, by omega, asked⟩
  · rintro ⟨r, from_r, to_r, asked⟩
    exact ⟨r, by omega, by omega, asked⟩

/-- A request resets from the sixth cycle after it to the eighth. -/
theorem resetOutAt_of_requested {r t : Nat} (asked : requestedAt line r = true)
    (after : r + 6 ≤ t) (before : t ≤ r + 8) : resetOutAt synchronizer line t = true := by
  obtain ⟨u, rfl⟩ := Nat.exists_eq_add_of_le' (show 6 ≤ t by omega)
  rw [resetOutAt_add_two, tapAt_add_four, out_of_requested asked (by omega) (by omega),
    Bool.true_or]

/-- Two requests at a distance of four leave no gap between their resets. -/
theorem resetOutAt_iff {t : Nat} (late : 10 ≤ t) :
    resetOutAt synchronizer line t = true ↔
      (∃ r, r + 6 ≤ t ∧ t ≤ r + 8 ∧ requestedAt line r = true) ∨
        requestedAt line (t - 9) = true ∧ requestedAt line (t - 5) = true := by
  obtain ⟨u, rfl⟩ := Nat.exists_eq_add_of_le' (show 3 ≤ t by omega)
  constructor
  · intro up
    by_cases middle : tapAt synchronizer line (u + 1) = true
    · obtain ⟨r, from_r, to_r, asked⟩ := (tapAt_iff (by omega)).mp middle
      exact .inl ⟨r, by omega, by omega, asked⟩
    · have apart : ∀ r, requestedAt line r = true → ¬ (r + 4 ≤ u + 1 ∧ u + 1 ≤ r + 6) :=
        fun r asked within => middle ((tapAt_iff (by omega)).mpr ⟨r, within.1, within.2, asked⟩)
      simp only [resetOutAt_add_two, middle, Bool.false_or, Bool.false_and, Bool.or_false,
        Bool.and_eq_true] at up
      obtain ⟨r, from_r, to_r, asked⟩ := (tapAt_iff (by omega)).mp up.1
      obtain ⟨r', from_r', to_r', asked'⟩ := (tapAt_iff (by omega)).mp up.2
      have := apart r asked
      have := apart r' asked'
      obtain rfl : r = u + 3 - 5 := by omega
      obtain rfl : r' = u + 3 - 9 := by omega
      exact .inr ⟨asked', asked⟩
  · rintro (⟨r, from_r, to_r, asked⟩ | ⟨first, second⟩)
    · exact resetOutAt_of_requested asked from_r to_r
    · have before : tapAt synchronizer line u = true :=
        (tapAt_iff (by omega)).mpr ⟨_, by omega, by omega, first⟩
      have after : tapAt synchronizer line (u + 2) = true :=
        (tapAt_iff (by omega)).mpr ⟨_, by omega, by omega, second⟩
      simp [resetOutAt_add_two, before, after]

theorem resetOutAt_of_unrequested {r t : Nat} (after : r + 9 ≤ t)
    (none : ∀ u, r < u → u ≤ t → requestedAt line u = false) :
    resetOutAt synchronizer line t = false := by
  have quiet : ∀ u, r + 7 ≤ u → u ≤ t → tapAt synchronizer line u = false := by
    intro u later upto
    rw [Bool.eq_false_iff, Ne, tapAt_iff (by omega)]
    rintro ⟨v, from_v, to_v, asked⟩
    simp [none v (by omega) (by omega)] at asked
  obtain ⟨u, rfl⟩ := Nat.exists_eq_add_of_le' (show 2 ≤ t by omega)
  rw [resetOutAt_add_two, quiet _ (by omega) (by omega), quiet _ (by omega) (by omega)]
  rfl

/-- `reset_out` is up in the first six cycles, whatever the synchronizer holds at
power-up, and later exactly when the reset inputs ask for it; `reset_req` goes before it. -/
theorem reset_sequence (synchronizer : AlteraResetSynchronizer) (line : Nat → ResetLine)
    (t : Nat) :
    (t < 6 → resetOutAt synchronizer line t = true) ∧
    (10 ≤ t → (resetOutAt synchronizer line t = true ↔
      (∃ r, r + 6 ≤ t ∧ t ≤ r + 8 ∧ requestedAt line r = true) ∨
        requestedAt line (t - 9) = true ∧ requestedAt line (t - 5) = true)) ∧
    (8 ≤ t → (resetReqAt synchronizer line t = true ↔
      ∃ r, r + 5 ≤ t ∧ t ≤ r + 7 ∧ requestedAt line r = true)) ∧
    (resetOutAt synchronizer line t = false → resetOutAt synchronizer line (t + 1) = true →
      resetReqAt synchronizer line t = true) := by
  refine ⟨resetOutAt_powerUp, resetOutAt_iff, fun late => ?_, fun down up => ?_⟩
  · obtain ⟨u, rfl⟩ := Nat.exists_eq_add_of_le' (show 1 ≤ t by omega)
    rw [resetReqAt_succ, tapAt_iff (by omega)]
    constructor
    · rintro ⟨r, from_r, to_r, asked⟩
      exact ⟨r, by omega, by omega, asked⟩
    · rintro ⟨r, from_r, to_r, asked⟩
      exact ⟨r, by omega, by omega, asked⟩
  · match t with
    | 0 => cases down
    | t + 1 =>
        rw [resetOutAt_add_two, down, Bool.and_false, Bool.or_false] at up
        rw [resetReqAt_succ, up]

end AlteraResetController

namespace AluSystem
variable (synchronizer : AlteraResetSynchronizer) (contents : AvalonAxi4LiteAlu 6 32)
variable (inp : Nat → Input)

def stateAt (t : Nat) : AluSystem := (machine synchronizer contents).run inp t

def resetOutAt (t : Nat) : Bool := (stateAt synchronizer contents inp t).rstController.resetOut

def aluInputAt (t : Nat) : Resettable (Avalon 6 32) :=
  (stateAt synchronizer contents inp t).aluInput (inp t)

theorem rstController_run (t : Nat) :
    (stateAt synchronizer contents inp t).rstController =
      AlteraResetController.stateAt synchronizer (fun c => mergedReset (inp c)) t :=
  (machine synchronizer contents).run_component (AlteraResetController.machine synchronizer)
    rstController (fun _ i => mergedReset i) rfl (fun _ _ => rfl) inp t

theorem resetOutAt_eq (t : Nat) :
    resetOutAt synchronizer contents inp t =
      AlteraResetController.resetOutAt synchronizer (fun c => mergedReset (inp c)) t := by
  rw [resetOutAt, rstController_run]
  rfl

theorem aluAxi4Lite0_run (t : Nat) :
    (stateAt synchronizer contents inp t).aluAxi4Lite0 =
      (AvalonAxi4LiteAlu.machine.underReset contents).run
        (aluInputAt synchronizer contents inp) t :=
  (machine synchronizer contents).run_component (AvalonAxi4LiteAlu.machine.underReset contents)
    aluAxi4Lite0 aluInput rfl (fun _ _ => rfl) inp t

theorem alu_since {t b : Nat} (latest : LatestUp (resetOutAt synchronizer contents inp) t b) :
    (stateAt synchronizer contents inp t).alu =
      AvalonAxi4LiteAlu.machine.run (fun k => (inp (b + 1 + k)).avs) (t - (b + 1)) := by
  rw [alu, aluAxi4Lite0_run]
  exact AvalonAxi4LiteAlu.machine.shown_since_reset contents
    (aluInputAt synchronizer contents inp) latest

variable {synchronizer contents inp}

/-- The reset that a request brings lasts to the eighth cycle after it. -/
theorem latestUp_of_request {r t : Nat} (late : r + 8 ≤ t)
    (latest : LatestUp (requestedAt fun c => mergedReset (inp c)) t r) :
    LatestUp (resetOutAt synchronizer contents inp) t (r + 8) := by
  obtain ⟨_, asked, none⟩ := latest
  refine ⟨late, ?_, fun u after upto => ?_⟩
  · rw [resetOutAt_eq]
    exact AlteraResetController.resetOutAt_of_requested asked (by omega) (Nat.le_refl _)
  · rw [resetOutAt_eq]
    exact AlteraResetController.resetOutAt_of_unrequested after fun v later before =>
      none v later (Nat.le_trans before upto)

variable (synchronizer contents inp)

/-- From power-up, with any contents of the registers, and through any resets, the
peripheral of the system is at every moment in a run from its reset state on what the
bus has carried since. A request ends its run six cycles later and lets the next one
begin after nine. -/
theorem alu_between_resets (t : Nat) :
    (∃ b, LatestUp (resetOutAt synchronizer contents inp) t b ∧
      (stateAt synchronizer contents inp t).alu =
        AvalonAxi4LiteAlu.machine.run (fun k => (inp (b + 1 + k)).avs) (t - (b + 1))) ∧
    ∀ r, LatestUp (requestedAt fun c => mergedReset (inp c)) t r →
      (r + 6 ≤ t → t ≤ r + 8 →
        (stateAt synchronizer contents inp t).alu = AvalonAxi4LiteAlu.reset) ∧
      (r + 9 ≤ t →
        (stateAt synchronizer contents inp t).alu =
          AvalonAxi4LiteAlu.machine.run (fun k => (inp (r + 9 + k)).avs) (t - (r + 9))) := by
  have first : resetOutAt synchronizer contents inp 0 = true := rfl
  refine ⟨?_, fun r latest => ⟨fun after before => ?_, fun after => ?_⟩⟩
  · obtain ⟨b, latest⟩ := exists_latestUp first t
    exact ⟨b, latest, alu_since synchronizer contents inp latest⟩
  · have up : resetOutAt synchronizer contents inp t = true := by
      rw [resetOutAt_eq]
      exact AlteraResetController.resetOutAt_of_requested latest.2.1 after before
    exact if_pos up
  · exact alu_since synchronizer contents inp (latestUp_of_request (by omega) latest)

end AluSystem
end AxiAlu
