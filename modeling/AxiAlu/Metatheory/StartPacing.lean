import AxiAlu.Metatheory.BusObservations

/-!
Starts at the top level. The bus path spaces its write pulses by the four cycles
that a command takes, which is exactly the time that the core needs to be free
again. So over Avalon the bank never refuses a start, and the core performs one
operation for each start command and completes it six cycles after its acceptance.
-/
namespace AxiAlu.AvalonAxi4LiteAlu
open Clocked AxiRegisterBank
variable {addrWidth dataWidth : Nat}

section Runs
variable (inp : Nat → Avalon addrWidth dataWidth)

/-- The wait of the engine names the cycle in which a start was accepted. -/
theorem wait_eq_iff (t : Nat) {j : Nat} (pos : 0 < j) (hj : j ≤ 3) :
    (Accelerator.runAt inp t).engine.wait = j ↔
      ∃ n w, t + j = n + 7 ∧ acceptedAt inp n = some (.write w) ∧ w.isStart = true := by
  rw [Accelerator.engine_run, acceptedAt_eq]
  constructor
  · intro waiting
    obtain ⟨v, start, hv⟩ := Engine.start_of_waiting (Accelerator.writeAt inp) (t := t) (by omega)
    obtain ⟨n, w, rfl, accepted, isStart⟩ := (Accelerator.startsAt_iff inp v).mp start
    exact ⟨n, w, by omega, accepted, isStart⟩
  · rintro ⟨n, w, ht, accepted, isStart⟩
    have start := (Accelerator.startsAt_iff inp (n + 3)).mpr ⟨n, w, rfl, accepted, isStart⟩
    have law := Engine.wait_eq_iff (Accelerator.writeAt inp) (n + 3) pos hj
    rw [show t = n + 3 + (4 - j) by omega]
    exact law.mpr start

end Runs

end AxiAlu.AvalonAxi4LiteAlu
