import AxiAlu.Clocked.Machine
import Mathlib.Data.Nat.Init
import Mathlib.Tactic.Common

/-!
Progress of a sequence of states. What a state may wait for is told by a key of it;
the rule asks that no key with a positive rank is kept for ever and that a key is only
ever given up for one of lower rank. Then rank zero is reached again and again.
-/
namespace Clocked
variable {K S I : Type*}

def Machine.startingAt (M : Machine S I) (s : S) : Machine S I := { M with reset := s }

/-- A key that is kept until the rank falls is kept for ever if the rank never falls. -/
theorem kept_of_not_falling {key : Nat → K} {rank : K → Nat} {t : Nat}
    (positive : rank (key t) ≠ 0)
    (keeps_or_falls : ∀ c, rank (key c) ≠ 0 →
      key (c + 1) = key c ∨ rank (key (c + 1)) < rank (key c))
    (never : ∀ c, t ≤ c → ¬ rank (key c) < rank (key t)) (c : Nat) (later : t ≤ c) :
    key c = key t := by
  induction c, later using Nat.le_induction with
  | base => rfl
  | succ c later ih =>
      rcases keeps_or_falls c (by rwa [ih]) with same | falls
      · exact same.trans ih
      · rw [ih] at falls
        exact absurd falls (never (c + 1) (Nat.le_succ_of_le later))

/-- The progress rule, by induction on the rank. -/
theorem exists_rank_zero {key : Nat → K} {rank : K → Nat}
    (keeps_or_falls : ∀ c, rank (key c) ≠ 0 →
      key (c + 1) = key c ∨ rank (key (c + 1)) < rank (key c))
    (not_forever : ∀ t, rank (key t) ≠ 0 → ∃ c, t ≤ c ∧ key c ≠ key t) (t : Nat) :
    ∃ c, t ≤ c ∧ rank (key c) = 0 := by
  induction height : rank (key t) using Nat.strongRecOn generalizing t with
  | ind n ih =>
      subst height
      by_cases zero : rank (key t) = 0
      · exact ⟨t, Nat.le_refl t, zero⟩
      · obtain ⟨c, later, lower⟩ : ∃ c, t ≤ c ∧ rank (key c) < rank (key t) := by
          by_contra none
          obtain ⟨c, later, given⟩ := not_forever t zero
          refine given (kept_of_not_falling zero keeps_or_falls (fun d after lower => ?_) c later)
          exact none ⟨d, after, lower⟩
        obtain ⟨d, after, done⟩ := ih _ lower c rfl
        exact ⟨d, Nat.le_trans later after, done⟩

end Clocked
