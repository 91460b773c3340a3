import AxiAlu.Clocked.Machine

/-!
A machine whose registers have an asynchronous reset. As long as the reset line is
up they show their reset values, and the edges of the clock change nothing. Between
two resets the machine runs as it does from its first one.
-/
namespace Clocked
variable {S I : Type*}

structure Resettable (I : Type*) where
  reset : Bool
  input : I

def LatestUp (line : Nat → Bool) (t b : Nat) : Prop :=
  b ≤ t ∧ line b = true ∧ ∀ u, b < u → u ≤ t → line u = false

theorem exists_latestUp {line : Nat → Bool} (first : line 0 = true) (t : Nat) :
    ∃ b, LatestUp line t b := by
  induction t with
  | zero => exact ⟨0, Nat.le_refl 0, first, fun u after before => by omega⟩
  | succ t ih =>
      cases now : line (t + 1) with
      | true => exact ⟨t + 1, Nat.le_refl _, now, fun u after before => by omega⟩
      | false =>
          obtain ⟨b, before, up, down⟩ := ih
          refine ⟨b, Nat.le_succ_of_le before, up, fun u after upto => ?_⟩
          rcases Nat.le_succ_iff.mp upto with earlier | rfl
          · exact down u after earlier
          · exact now

namespace Machine
variable (M : Machine S I)

/-- The block with its reset line, from what its registers hold at power-up. -/
def underReset (powerUp : S) : Machine S (Resettable I) :=
  { reset := powerUp
    step := fun s i => if i.reset then M.reset else M.step s i.input }

/-- What the registers show: the reset does not wait for an edge. -/
def shown (line : Bool) (s : S) : S := if line then M.reset else s

section Runs
variable (powerUp : S) (inp : Nat → Resettable I)

theorem underReset_run_succ (t : Nat) :
    (M.underReset powerUp).run inp (t + 1) =
      if (inp t).reset then M.reset
      else M.step ((M.underReset powerUp).run inp t) (inp t).input := rfl

theorem underReset_run_after {b : Nat} (up : (inp b).reset = true) (n : Nat)
    (down : ∀ k, k < n → (inp (b + 1 + k)).reset = false) :
    (M.underReset powerUp).run inp (b + 1 + n) = M.run (fun k => (inp (b + 1 + k)).input) n := by
  induction n with
  | zero => rw [Nat.add_zero, underReset_run_succ, if_pos up]; rfl
  | succ n ih =>
      have free : ¬ (inp (b + 1 + n)).reset = true := by simp [down n (Nat.lt_succ_self n)]
      rw [← Nat.add_assoc, underReset_run_succ, if_neg free, run_succ,
        ih fun k hk => down k (Nat.lt_succ_of_lt hk)]

/-- Since the line was last up the block has run as from its reset values. -/
theorem shown_since_reset {t b : Nat} (latest : LatestUp (fun c => (inp c).reset) t b) :
    M.shown (inp t).reset ((M.underReset powerUp).run inp t) =
      M.run (fun k => (inp (b + 1 + k)).input) (t - (b + 1)) := by
  obtain ⟨before, up, down⟩ := latest
  rcases Nat.eq_or_lt_of_le before with rfl | earlier
  · rw [shown, if_pos up, Nat.sub_eq_zero_of_le (Nat.le_succ b)]
    rfl
  · obtain ⟨n, rfl⟩ := Nat.exists_eq_add_of_le (Nat.succ_le_of_lt earlier)
    have free : ¬ (inp (b + 1 + n)).reset = true := by
      have := down (b + 1 + n) (by omega) (Nat.le_refl _)
      simp [this]
    rw [shown, if_neg free, Nat.add_sub_cancel_left]
    exact M.underReset_run_after powerUp inp up n fun k hk => down _ (by omega) (by omega)

end Runs
end Machine
end Clocked
