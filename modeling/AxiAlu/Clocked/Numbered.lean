import AxiAlu.Clocked.History
import Mathlib.Data.Nat.Find
import Mathlib.Order.Bounds.Basic

/-!
Events by their number. A stream that has its next event whenever that event is
ready has each of its events in the least cycle in which it is ready and its turn has
come. What makes an event ready is most often that others are in the past.
-/
namespace Clocked
variable {α β : Type*}

/-- The event number `k` of a stream, counted from zero, is in cycle `c`. -/
def NthAt (ev : Nat → Option α) (k c : Nat) : Prop :=
  (ev c).isSome = true ∧ (history ev c).length = k

def PastNth (ev : Nat → Option α) (k t : Nat) : Prop := k < (history ev t).length

theorem history_length_succ (ev : Nat → Option α) (t : Nat) :
    (history ev (t + 1)).length = (history ev t).length + (ev t).isSome.toNat := by
  rw [history_succ, List.length_append]
  cases ev t <;> rfl

/-- Conservation in numbers: as many have entered as have left and are held. -/
theorem Machine.run_balances {S I : Type*} (M : Machine S I) (held : S → Nat)
    (enters : S → I → Option α) (leaves : S → I → Option β) (empty : held M.reset = 0)
    (balance : ∀ s i, held s + (enters s i).isSome.toNat =
      (leaves s i).isSome.toNat + held (M.step s i))
    (inp : Nat → I) (t : Nat) :
    (history (fun c => enters (M.run inp c) (inp c)) t).length =
      (history (fun c => leaves (M.run inp c) (inp c)) t).length + held (M.run inp t) := by
  induction t with
  | zero => exact (congrArg (0 + ·) empty).symm
  | succ t ih =>
      have step := balance (M.run inp t) (inp t)
      rw [history_length_succ, history_length_succ, ih, Machine.run_succ]
      omega

section Numbers
variable {ev : Nat → Option α} {k c t : Nat}

theorem NthAt.past (h : NthAt ev k c) (later : c < t) : PastNth ev k t := by
  have grows := history_length_mono ev (show c + 1 ≤ t from later)
  rw [history_length_succ, h.1, h.2] at grows
  exact grows

theorem NthAt.not_past (h : NthAt ev k c) (early : t ≤ c) : ¬ PastNth ev k t := by
  have grows := history_length_mono ev early
  rw [h.2] at grows
  exact Nat.not_lt.mpr grows

theorem NthAt.past_iff (h : NthAt ev k c) : PastNth ev k t ↔ c + 1 ≤ t :=
  ⟨fun past => Nat.lt_of_not_le fun early => h.not_past early past, h.past⟩

theorem PastNth.exists_nthAt (h : PastNth ev k t) : ∃ c, c < t ∧ NthAt ev k c := by
  induction t with
  | zero => exact absurd h (Nat.not_lt_zero _)
  | succ t ih =>
      by_cases before : PastNth ev k t
      · obtain ⟨c, hct, at_c⟩ := ih before
        exact ⟨c, Nat.lt_succ_of_lt hct, at_c⟩
      · rw [PastNth, history_length_succ] at h
        rw [PastNth] at before
        cases fires : (ev t).isSome with
        | false => rw [fires] at h; exact absurd h before
        | true =>
            rw [fires] at h
            change k < (history ev t).length + 1 at h
            exact ⟨t, Nat.lt_succ_self t, fires, by omega⟩

theorem pastNth_iff : PastNth ev k t ↔ ∃ c, c < t ∧ NthAt ev k c :=
  ⟨PastNth.exists_nthAt, fun ⟨_, later, at_c⟩ => at_c.past later⟩

theorem pastNth_iff_delay (d : Nat) : PastNth ev k t ↔ ∃ c, c + d + 1 ≤ t + d ∧ NthAt ev k c := by
  rw [pastNth_iff]
  constructor
  · exact fun ⟨c, before, at_c⟩ => ⟨c, by omega, at_c⟩
  · exact fun ⟨c, before, at_c⟩ => ⟨c, by omega, at_c⟩

theorem PastNth.mono {s : Nat} (h : PastNth ev k s) (later : s ≤ t) : PastNth ev k t :=
  Nat.lt_of_lt_of_le h (history_length_mono ev later)

theorem le_history_length_iff : k ≤ (history ev t).length ↔ ∀ j, j < k → PastNth ev j t := by
  constructor
  · exact fun reached j lower => Nat.lt_of_lt_of_le lower reached
  · intro past
    cases k with
    | zero => exact Nat.zero_le _
    | succ k => exact past k (Nat.lt_succ_self k)

theorem PastNth.of_le {j : Nat} (h : PastNth ev k t) (lower : j ≤ k) : PastNth ev j t :=
  Nat.lt_of_le_of_lt lower h

theorem NthAt.unique {c' : Nat} (h : NthAt ev k c) (h' : NthAt ev k c') : c = c' := by
  have first : ¬ c < c' := fun before => h'.not_past (Nat.le_refl _) (h.past before)
  have second : ¬ c' < c := fun before => h.not_past (Nat.le_refl _) (h'.past before)
  omega

/-- The events of a stream whose events are at least `d` cycles apart. -/
theorem NthAt.spaced_from {d first : Nat} (h : NthAt ev k c)
    (start : ∀ c, NthAt ev 0 c → first ≤ c)
    (apart : ∀ k c c', NthAt ev k c → NthAt ev (k + 1) c' → c + d ≤ c') :
    d * k + first ≤ c := by
  induction k generalizing c with
  | zero => simpa using start c h
  | succ k ih =>
      obtain ⟨b, _, at_b⟩ := ((h.past (Nat.lt_succ_self c)).of_le (Nat.le_succ k)).exists_nthAt
      have bound := ih at_b
      have gap := apart k b c at_b h
      rw [Nat.mul_succ]
      omega

theorem nthAt_delay {ev' : Nat → Option β} (d : Nat) (early : ∀ c, c < d → ev' c = none)
    (late : ∀ c, (ev' (c + d)).isSome = (ev c).isSome) :
    NthAt ev' k t ↔ ∃ c, NthAt ev k c ∧ t = c + d := by
  constructor
  · rintro ⟨fires, number⟩
    have notEarly : ¬ t < d := fun before => by rw [early t before] at fires; cases fires
    obtain ⟨c, rfl⟩ : ∃ c, t = c + d := ⟨t - d, by omega⟩
    refine ⟨c, ⟨(late c).symm.trans fires, ?_⟩, rfl⟩
    rw [← number, history_length_delay d early late]
  · rintro ⟨c, ⟨fires, number⟩, rfl⟩
    exact ⟨(late c).trans fires, (history_length_delay d early late c).trans number⟩

end Numbers

/-- A stream that has its next event, the one whose number is the count so far, in
exactly those cycles in which that event is ready. -/
def Prompt (ev : Nat → Option α) (ready : Nat → Nat → Prop) : Prop :=
  ∀ t, (ev t).isSome = true ↔ ready (history ev t).length t

/-- The events of a prompt stream come as early as they are ready in their turn. -/
theorem Prompt.nthAt_iff {ev : Nat → Option α} {ready : Nat → Nat → Prop}
    (prompt : Prompt ev ready) (k c : Nat) :
    NthAt ev k c ↔ IsLeast {t | k ≤ (history ev t).length ∧ ready k t} c := by
  have member : ∀ c, NthAt ev k c → k ≤ (history ev c).length ∧ ready k c := by
    rintro c ⟨fires, number⟩
    exact ⟨Nat.le_of_eq number.symm, number ▸ (prompt c).mp fires⟩
  constructor
  · intro h
    refine ⟨member c h, fun t ⟨reached, atTurn⟩ => ?_⟩
    by_contra before
    have exactly : (history ev t).length = k := by
      have grows := history_length_mono ev (Nat.le_of_not_le before)
      rw [h.2] at grows
      omega
    have fires : (ev t).isSome = true := (prompt t).mpr (by rwa [exactly])
    exact before (Nat.le_of_eq (NthAt.unique h ⟨fires, exactly⟩))
  · rintro ⟨⟨reached, atTurn⟩, least⟩
    have exactly : (history ev c).length = k := by
      by_contra more
      have past : PastNth ev k c := by
        rw [PastNth]
        omega
      obtain ⟨d, before, at_d⟩ := past.exists_nthAt
      exact absurd (least (member d at_d)) (Nat.not_le.mpr before)
    exact ⟨(prompt c).mpr (by rwa [exactly]), exactly⟩

theorem Prompt.nthAt_iff_of {ev : Nat → Option α} {ready : Nat → Nat → Prop}
    (prompt : Prompt ev ready) {k : Nat} {condition : Nat → Prop}
    (same : ∀ t, k ≤ (history ev t).length ∧ ready k t ↔ condition t) (c : Nat) :
    NthAt ev k c ↔ IsLeast {t | condition t} c := by
  rw [prompt.nthAt_iff, Set.ext same]

/-- An event that comes in the least cycle of a set comes when the set has a member. -/
theorem exists_nthAt_of_mem {ev : Nat → Option α} {k t : Nat} {A : Set Nat}
    (law : ∀ c, NthAt ev k c ↔ IsLeast A c) (member : t ∈ A) : ∃ c, NthAt ev k c := by
  classical
  have some : ∃ t, t ∈ A := ⟨t, member⟩
  exact ⟨Nat.find some, (law _).mpr
    ⟨Nat.find_spec some, fun _ other => Nat.find_min' some other⟩⟩

/-- The least of the cycles that come `d` after those of a set. -/
theorem isLeast_delay {A B : Set Nat} (d : Nat) (early : ∀ t, t < d → t ∉ B)
    (late : ∀ t, t + d ∈ B ↔ t ∈ A) (c : Nat) :
    IsLeast B c ↔ ∃ a, IsLeast A a ∧ c = a + d := by
  have split : ∀ t, t ∈ B → ∃ a, t = a + d := by
    intro t member
    refine ⟨t - d, ?_⟩
    have notEarly : ¬ t < d := fun before => early t before member
    omega
  constructor
  · rintro ⟨member, least⟩
    obtain ⟨a, rfl⟩ := split c member
    refine ⟨a, ⟨(late a).mp member, fun t ht => ?_⟩, rfl⟩
    have bound := least ((late t).mpr ht)
    omega
  · rintro ⟨a, ⟨member, least⟩, rfl⟩
    refine ⟨(late a).mpr member, fun t ht => ?_⟩
    obtain ⟨b, rfl⟩ := split t ht
    have bound := least ((late b).mp ht)
    omega

end Clocked
