import AxiAlu.Clocked.Machine
import Mathlib.Data.List.Induction
import Mathlib.Tactic.Common

/-!
Histories of a stream: the events observed before a cycle, oldest first, and
registers that hold what the history last wrote. An observation is an
`Option`-valued function of the cycle, so that a cycle carries at most one event
of a kind together with its payload.
-/
namespace Clocked
variable {α β ω S I : Type*}

def history (ev : Nat → Option α) : Nat → List α
  | 0 => []
  | t + 1 => history ev t ++ (ev t).toList

theorem history_succ (ev : Nat → Option α) (t : Nat) :
    history ev (t + 1) = history ev t ++ (ev t).toList := rfl

theorem history_succ_some {ev : Nat → Option α} {t : Nat} {x : α} (h : ev t = some x) :
    history ev (t + 1) = history ev t ++ [x] := by
  rw [history_succ, h]; rfl

theorem history_succ_none {ev : Nat → Option α} {t : Nat} (h : ev t = none) :
    history ev (t + 1) = history ev t := by
  rw [history_succ, h]; simp

/-- The events with the given payload in the cycles in which `fires` is up. -/
def observe (fires : Nat → Bool) (payload : Nat → α) (c : Nat) : Option α :=
  if fires c then some (payload c) else none

theorem isSome_observe (fires : Nat → Bool) (payload : Nat → α) (c : Nat) :
    (observe fires payload c).isSome = fires c := by
  rw [observe]
  cases fires c <;> rfl

theorem length_history_observe_succ (fires : Nat → Bool) (payload : Nat → α) (t : Nat) :
    (history (observe fires payload) (t + 1)).length =
      (history (observe fires payload) t).length + (fires t).toNat := by
  rw [history_succ, List.length_append, observe]
  cases fires t <;> rfl

theorem length_history_observe (fires : Nat → Bool) (payload : Nat → α) (payload' : Nat → β)
    (t : Nat) :
    (history (observe fires payload) t).length =
      (history (observe fires payload') t).length := by
  induction t with
  | zero => rfl
  | succ t ih => rw [length_history_observe_succ, length_history_observe_succ, ih]

theorem history_extends (ev : Nat → Option α) {s t : Nat} (h : s ≤ t) :
    history ev s <+: history ev t := by
  induction t with
  | zero =>
      obtain rfl : s = 0 := Nat.le_zero.mp h
      exact List.prefix_rfl
  | succ t ih =>
      by_cases hs : s ≤ t
      · exact (ih hs).trans (List.prefix_append _ _)
      · obtain rfl : s = t + 1 := by omega
        exact List.prefix_rfl

theorem history_length_mono (ev : Nat → Option α) {s t : Nat} (h : s ≤ t) :
    (history ev s).length ≤ (history ev t).length :=
  (history_extends ev h).length_le

theorem mem_history {ev : Nat → Option α} {t : Nat} {x : α} :
    x ∈ history ev t ↔ ∃ c, c < t ∧ ev c = some x := by
  induction t with
  | zero => simp [history]
  | succ t ih =>
      rw [history_succ, List.mem_append, ih, Option.mem_toList]
      constructor
      · rintro (⟨c, before, at_c⟩ | now)
        · exact ⟨c, Nat.lt_succ_of_lt before, at_c⟩
        · exact ⟨t, Nat.lt_succ_self t, now⟩
      · rintro ⟨c, before, at_c⟩
        rcases Nat.lt_succ_iff_lt_or_eq.mp before with earlier | rfl
        · exact Or.inl ⟨c, earlier, at_c⟩
        · exact Or.inr at_c

theorem history_quiet {ev : Nat → Option α} {s t : Nat} (h : s ≤ t)
    (quiet : ∀ c, s ≤ c → c < t → ev c = none) : history ev t = history ev s := by
  induction t with
  | zero => rw [Nat.le_zero.mp h]
  | succ t ih =>
      by_cases hs : s ≤ t
      · rw [history_succ_none (quiet t hs (Nat.lt_succ_self t))]
        exact ih hs (fun c hc hct => quiet c hc (by omega))
      · rw [show s = t + 1 by omega]

theorem quiet_of_length_eq {ev : Nat → Option α} {s t : Nat}
    (same : (history ev t).length = (history ev s).length) {c : Nat} (hsc : s ≤ c)
    (hct : c < t) : ev c = none := by
  by_contra event
  obtain ⟨x, hx⟩ := Option.ne_none_iff_exists'.mp event
  have before := history_length_mono ev hsc
  have after := history_length_mono ev (show c + 1 ≤ t from hct)
  rw [history_succ_some hx, List.length_append, List.length_singleton] at after
  omega

/-- A stream that repeats another one `d` cycles later has its history then. -/
theorem history_delay {ev ev' : Nat → Option α} (d : Nat)
    (early : ∀ c, c < d → ev' c = none) (late : ∀ c, ev' (c + d) = ev c) (t : Nat) :
    history ev' (t + d) = history ev t := by
  induction t with
  | zero =>
      rw [history_quiet (Nat.zero_le _) (fun c _ hc => early c (by omega))]
      rfl
  | succ t ih =>
      rw [show t + 1 + d = t + d + 1 by omega, history_succ, history_succ, ih, late]

/-- A stream that has an event `d` cycles after each event of another one has as
many of them then. -/
theorem history_length_delay {ev : Nat → Option α} {ev' : Nat → Option β} (d : Nat)
    (early : ∀ c, c < d → ev' c = none) (late : ∀ c, (ev' (c + d)).isSome = (ev c).isSome)
    (t : Nat) : (history ev' (t + d)).length = (history ev t).length := by
  induction t with
  | zero =>
      rw [history_quiet (Nat.zero_le _) (fun c _ hc => early c (by omega))]
      rfl
  | succ t ih =>
      have both := late t
      rw [show t + 1 + d = t + d + 1 by omega, history_succ, history_succ, List.length_append,
        List.length_append, ih]
      cases h : ev t <;> cases h' : ev' (t + d) <;> simp_all

/-- A window whose events exclude each other adds at most one to the history. -/
theorem history_window {ev : Nat → Option α} {s t : Nat} (h : s ≤ t)
    (apart : ∀ a b x, s ≤ a → a < b → b < t → ev a = some x → ev b = none) :
    history ev t = history ev s ∨ ∃ x, history ev t = history ev s ++ [x] := by
  by_cases same : history ev t = history ev s
  · exact Or.inl same
  · obtain ⟨c, x, hsc, hct, hc⟩ : ∃ c x, s ≤ c ∧ c < t ∧ ev c = some x := by
      by_contra none
      refine same (history_quiet h fun c h₁ h₂ => ?_)
      by_contra event
      obtain ⟨x, hx⟩ := Option.ne_none_iff_exists'.mp event
      exact none ⟨c, x, h₁, h₂, hx⟩
    have before : history ev c = history ev s := by
      refine history_quiet hsc fun d h₁ h₂ => ?_
      by_contra event
      obtain ⟨y, hy⟩ := Option.ne_none_iff_exists'.mp event
      rw [apart d c y h₁ h₂ hct hy] at hc
      cases hc
    have after : history ev t = history ev (c + 1) :=
      history_quiet hct fun d h₁ h₂ => apart c d x hsc (by omega) h₂ hc
    exact Or.inr ⟨x, by rw [after, history_succ_some hc, before]⟩

theorem history_getLast? {ev : Nat → Option α} {c t : Nat} {x : α} (hct : c < t)
    (at_c : ev c = some x) (quiet : ∀ d, c < d → d < t → ev d = none) :
    (history ev t).getLast? = some x := by
  rw [history_quiet (s := c + 1) hct (fun d hd hdt => quiet d (by omega) hdt),
    history_succ_some at_c, List.getLast?_concat]

theorem exists_latest {ev : Nat → Option α} {t : Nat} (h : history ev t ≠ []) :
    ∃ c x, c < t ∧ ev c = some x ∧ ∀ d, c < d → d < t → ev d = none := by
  induction t with
  | zero => exact absurd rfl h
  | succ t ih =>
      cases he : ev t with
      | some x => exact ⟨t, x, Nat.lt_succ_self t, he, fun d h₁ h₂ => by omega⟩
      | none =>
          rw [history_succ_none he] at h
          obtain ⟨c, x, hct, hc, quiet⟩ := ih h
          refine ⟨c, x, by omega, hc, fun d h₁ h₂ => ?_⟩
          by_cases hd : d = t
          · rw [hd, he]
          · exact quiet d h₁ (by omega)

/-- A view of a machine that only events update holds their fold. -/
theorem Machine.run_view_foldl {V : Type*} (M : Machine S I) (view : S → V)
    (ev : S → I → Option ω) (update : V → ω → V)
    (view_step : ∀ s i, view (M.step s i) = (ev s i).elim (view s) (update (view s)))
    (inp : Nat → I) (t : Nat) :
    view (M.run inp t) =
      (history (fun c => ev (M.run inp c) (inp c)) t).foldl update (view M.reset) := by
  induction t with
  | zero => rfl
  | succ t ih =>
      rw [Machine.run_succ, view_step, history_succ, List.foldl_append, ← ih]
      cases ev (M.run inp t) (inp t) <;> rfl

theorem history_map (f : α → β) (ev : Nat → Option α) (t : Nat) :
    (history ev t).map f = history (fun c => (ev c).map f) t := by
  induction t with
  | zero => rfl
  | succ t ih =>
      rw [history_succ, history_succ, List.map_append, ih]
      cases ev t <;> rfl

theorem history_observe_map (f : α → β) (fires : Nat → Bool) (payload : Nat → α) (t : Nat) :
    (history (observe fires payload) t).map f =
      history (observe fires fun c => f (payload c)) t := by
  rw [history_map]
  congr 1
  funext c
  simp only [observe]
  cases fires c <;> rfl

theorem history_filterMap (f : α → Option β) (ev : Nat → Option α) (t : Nat) :
    (history ev t).filterMap f = history (fun c => (ev c).bind f) t := by
  induction t with
  | zero => rfl
  | succ t ih =>
      rw [history_succ, history_succ, List.filterMap_append, ih]
      cases he : ev t with
      | none => rfl
      | some x => cases hf : f x <;> simp [hf]

/-- Conservation: when every edge balances what enters and what is held against
what leaves and what is held next, everything that has entered has left or is
held, in order. -/
theorem Machine.run_conserves (M : Machine S I) (held : S → List α)
    (enters leaves : S → I → Option α) (empty : held M.reset = [])
    (balance : ∀ s i, held s ++ (enters s i).toList = (leaves s i).toList ++ held (M.step s i))
    (inp : Nat → I) (t : Nat) :
    history (fun c => enters (M.run inp c) (inp c)) t =
      history (fun c => leaves (M.run inp c) (inp c)) t ++ held (M.run inp t) := by
  induction t with
  | zero => exact empty.symm
  | succ t ih =>
      rw [history_succ, history_succ, ih, List.append_assoc, balance, List.append_assoc]
      rfl

/-- The value of the last item that hits, `default` when none does. -/
def lastHit (hit : ω → Bool) (value : ω → β) (default : β) (items : List ω) : β :=
  ((items.filter hit).getLast?.map value).getD default

theorem lastHit_append_singleton (hit : ω → Bool) (value : ω → β) (d : β)
    (items : List ω) (x : ω) :
    lastHit hit value d (items ++ [x]) =
      if hit x then value x else lastHit hit value d items := by
  by_cases h : hit x <;> simp [lastHit, List.filter_append, h]

/-- Last writer wins: a view that a hitting item overwrites and every other item
leaves alone holds, after a list of items, the value of the last hit. -/
theorem foldl_lastHit {V : Type*} (update : V → ω → V) (view : V → β) (hit : ω → Bool)
    (value : ω → β)
    (overwrite : ∀ v x, view (update v x) = if hit x then value x else view v)
    (init : V) (items : List ω) :
    view (items.foldl update init) = lastHit hit value (view init) items := by
  induction items using List.reverseRecOn with
  | nil => rfl
  | append_singleton items x ih =>
      rw [List.foldl_append, lastHit_append_singleton, ← ih]
      exact overwrite _ _

theorem foldl_latest (init : β) (items : List β) :
    items.foldl (fun _ x => x) init = items.getLast?.getD init := by
  induction items using List.reverseRecOn with
  | nil => rfl
  | append_singleton items x _ => simp

/-- `p` is down in every cycle from `n` up to, and without, `t`. -/
def Never (p : Nat → Bool) (n t : Nat) : Prop := ∀ c, n ≤ c → c < t → p c = false

/-- From `n` up to, and without, `t` the cycle `a` is the only one with `p` up. -/
def OnceAt (p : Nat → Bool) (n t a : Nat) : Prop :=
  n ≤ a ∧ a < t ∧ ∀ c, n ≤ c → c < t → (p c = true ↔ c = a)

/-- `p` has been up exactly once since `n` if `done`, and not at all otherwise. -/
def Seen (p : Nat → Bool) (n t : Nat) : Bool → Prop
  | true => ∃ a, OnceAt p n t a
  | false => Never p n t

theorem never_self (p : Nat → Bool) (n : Nat) : Never p n n :=
  fun _ h₁ h₂ => absurd h₂ (by omega)

theorem Never.extend {p : Nat → Bool} {n t : Nat} (h : Never p n t) (ht : p t = false) :
    Never p n (t + 1) := by
  intro c h₁ h₂
  by_cases hc : c = t
  · rwa [hc]
  · exact h c h₁ (by omega)

theorem Never.once {p : Nat → Bool} {n t : Nat} (h : Never p n t) (hn : n ≤ t)
    (ht : p t = true) : OnceAt p n (t + 1) t := by
  refine ⟨hn, Nat.lt_succ_self t, fun c h₁ h₂ => ⟨fun hc => ?_, fun hc => by rwa [hc]⟩⟩
  by_contra hne
  rw [h c h₁ (by omega)] at hc
  cases hc

theorem OnceAt.extend {p : Nat → Bool} {n t a : Nat} (h : OnceAt p n t a)
    (ht : p t = false) : OnceAt p n (t + 1) a := by
  obtain ⟨hn, hat, only⟩ := h
  refine ⟨hn, by omega, fun c h₁ h₂ => ?_⟩
  by_cases hc : c = t
  · subst hc
    refine ⟨fun hp => ?_, fun he => by omega⟩
    rw [ht] at hp
    cases hp
  · exact only c h₁ (by omega)

/-- A flag that gates `p` and is raised by what it gates records `p`. -/
theorem Seen.extend {p : Nat → Bool} {n t : Nat} {done ready : Bool} (h : Seen p n t done)
    (hn : n ≤ t) (gated : p t = (!done && ready)) : Seen p n (t + 1) (done || ready) := by
  cases done with
  | true =>
      obtain ⟨a, ha⟩ := h
      exact ⟨a, ha.extend gated⟩
  | false =>
      cases ready with
      | true => exact ⟨t, Never.once h hn gated⟩
      | false => exact Never.extend h gated

end Clocked
