import AxiAlu.Software.Program

/-!
A program cannot tell a device from one that simulates it: whatever an execution
on the simulating device returns and logs, the same program with the same timing
returns and logs on the other one, and ends in a related state.
-/
namespace AxiAlu.Device
variable {addrWidth dataWidth : Nat} {α S T : Type}

structure Simulates (D : Device addrWidth dataWidth S) (E : Device addrWidth dataWidth T)
    (R : S → T → Prop) : Prop where
  step : ∀ s t i, R s t → R (D.step s i) (E.step t i)
  waitrequest : ∀ s t, R s t → D.waitrequest s = E.waitrequest t
  response : ∀ s t, R s t → D.response s = E.response t

namespace Simulates
variable {D : Device addrWidth dataWidth S} {E : Device addrWidth dataWidth T}
  {R : S → T → Prop} (sim : Simulates D E R)
include sim

theorem idle {s : S} {t : T} (h : R s t) (gap : List (Avalon addrWidth dataWidth)) :
    R (D.idle s gap) (E.idle t gap) := by
  induction gap generalizing s t with
  | nil => exact h
  | cons i gap ih => exact ih (sim.step s t i.silent h)

theorem issue {s : S} {t t' : T} (h : R s t) {lines : Avalon addrWidth dataWidth} {limit : Nat}
    (done : E.issue lines limit t = some t') : ∃ s', D.issue lines limit s = some s' ∧ R s' t' := by
  induction limit generalizing s t with
  | zero => cases done
  | succ limit ih =>
      rw [Device.issue] at done ⊢
      rw [sim.waitrequest s t h]
      cases busy : E.waitrequest t with
      | true =>
          rw [busy] at done
          exact ih (sim.step s t lines h) done
      | false =>
          rw [busy] at done
          cases done
          exact ⟨_, rfl, sim.step s t lines h⟩

theorem await {s : S} {t t' : T} (h : R s t) {lines : Avalon addrWidth dataWidth} {limit : Nat}
    {word : BitVec dataWidth} (done : E.await lines limit t = some (word, t')) :
    ∃ s', D.await lines limit s = some (word, s') ∧ R s' t' := by
  induction limit generalizing s t with
  | zero => cases done
  | succ limit ih =>
      have same := sim.response s t h
      cases response : E.response t with
      | none =>
          rw [E.await_none response] at done
          rw [D.await_none (same.trans response)]
          exact ih (sim.step s t lines.silent h) done
      | some word =>
          rw [E.await_some response] at done
          rw [D.await_some (same.trans response)]
          cases done
          exact ⟨s, rfl, h⟩

theorem execute (p : Program addrWidth dataWidth α) {limit : Nat}
    {timing : Nat → Timing addrWidth dataWidth} {s : S} {t t' : T} (h : R s t) {value : α}
    {log : List (Access addrWidth dataWidth)}
    (done : E.execute limit p timing t = some (value, log, t')) :
    ∃ s', D.execute limit p timing s = some (value, log, s') ∧ R s' t' := by
  induction p generalizing timing s t log with
  | done v =>
      cases done
      exact ⟨s, rfl, h⟩
  | write addr word next ih =>
      obtain ⟨t₁, issued, rest⟩ := Option.bind_eq_some_iff.mp done
      obtain ⟨⟨v, log', t₂⟩, ended, eq⟩ := Option.map_eq_some_iff.mp rest
      cases eq
      obtain ⟨s₁, issued', h₁⟩ := sim.issue (sim.idle h _) issued
      obtain ⟨s₂, ended', h₂⟩ := ih h₁ ended
      refine ⟨s₂, ?_, h₂⟩
      exact Option.bind_eq_some_iff.mpr ⟨s₁, issued', by rw [ended']; rfl⟩
  | read addr next ih =>
      obtain ⟨t₁, issued, rest⟩ := Option.bind_eq_some_iff.mp done
      obtain ⟨⟨word, t₂⟩, answered, rest⟩ := Option.bind_eq_some_iff.mp rest
      obtain ⟨⟨v, log', t₃⟩, ended, eq⟩ := Option.map_eq_some_iff.mp rest
      cases eq
      obtain ⟨s₁, issued', h₁⟩ := sim.issue (sim.idle h _) issued
      obtain ⟨s₂, answered', h₂⟩ := sim.await h₁ answered
      obtain ⟨s₃, ended', h₃⟩ := ih word h₂ ended
      refine ⟨s₃, ?_, h₃⟩
      refine Option.bind_eq_some_iff.mpr ⟨s₁, issued', ?_⟩
      exact Option.bind_eq_some_iff.mpr ⟨(word, s₂), answered', by rw [ended']; rfl⟩

end Simulates
end AxiAlu.Device
