import AxiAlu.Metatheory.BridgeSteps
import AxiAlu.Metatheory.SlaveReadChannel

/-!
The five AXI4-Lite channels keep a request or response, once it is offered, until
the other side takes it. On the four channels that are offered from a state or a
flag of their own this is a property of one step; the read data also needs that
the slave never samples the bank while it still offers a word.
-/
namespace AxiAlu
open Clocked

namespace AvalonAxi4LiteBridge
variable {addrWidth dataWidth : Nat} {s : AvalonAxi4LiteBridge addrWidth dataWidth}
  {i : Input addrWidth dataWidth}

theorem aw_stable (offered : s.mAxiAwvalid = true) (stalled : i.mAxiAwready = false) :
    (s.step i).mAxiAwvalid = true ∧ (s.step i).mAxiAwaddr = s.mAxiAwaddr := by
  obtain ⟨writing, pending⟩ : s.stateQ = .write ∧ s.awDoneQ = false := by
    simpa [mAxiAwvalid] using offered
  rw [step_write i writing]
  simp [mAxiAwvalid, mAxiAwaddr, pending, stalled]

theorem w_stable (offered : s.mAxiWvalid = true) (stalled : i.mAxiWready = false) :
    (s.step i).mAxiWvalid = true ∧ (s.step i).mAxiWdata = s.mAxiWdata ∧
      (s.step i).mAxiWstrb = s.mAxiWstrb := by
  obtain ⟨writing, pending⟩ : s.stateQ = .write ∧ s.wDoneQ = false := by
    simpa [mAxiWvalid] using offered
  rw [step_write i writing]
  simp [mAxiWvalid, mAxiWdata, mAxiWstrb, pending, stalled]

theorem ar_stable (offered : s.mAxiArvalid = true) (stalled : i.mAxiArready = false) :
    (s.step i).mAxiArvalid = true ∧ (s.step i).mAxiAraddr = s.mAxiAraddr := by
  have asking : s.stateQ = .readAddr := by simpa [mAxiArvalid] using offered
  rw [step_readAddr i asking]
  simp [mAxiArvalid, mAxiAraddr, stalled]

end AvalonAxi4LiteBridge

namespace Axi4LiteSlave
variable {addrWidth dataWidth : Nat} {s : Axi4LiteSlave addrWidth dataWidth}
  {i : Input addrWidth dataWidth}

theorem b_stable (offered : s.sAxiBvalid = true) (stalled : i.sAxiBready = false) :
    (s.step i).sAxiBvalid = true ∧ (s.step i).sAxiBresp = s.sAxiBresp := by
  refine ⟨?_, rfl⟩
  change s.bvalidQ = true at offered
  change (s.step i).bvalidQ = true
  rw [step_bvalidQ, offered, stalled]
  simp

theorem r_stable (exclusive : s.ReadExclusive) (offered : s.sAxiRvalid = true)
    (stalled : i.sAxiRready = false) :
    (s.step i).sAxiRvalid = true ∧ (s.step i).sAxiRdata = s.sAxiRdata ∧
      (s.step i).sAxiRresp = s.sAxiRresp := by
  change s.rvalidQ = true at offered
  have notPending := exclusive.not_pending offered
  refine ⟨?_, ?_, rfl⟩
  · change (s.step i).rvalidQ = true
    rw [step_rvalidQ, rFire, stalled, offered]
    simp
  · change (s.step i).rdataQ = s.rdataQ
    rw [step_rdataQ, notPending]
    rfl

end Axi4LiteSlave

/-- In every run of the bridge and of the slave, whatever the other side and the
other channels do, a stalled channel offers the same payload in the next cycle. -/
theorem stalled_channels_stable {addrWidth dataWidth : Nat} :
    (∀ (inp : Nat → AvalonAxi4LiteBridge.Input addrWidth dataWidth) (t : Nat),
      let s := AvalonAxi4LiteBridge.machine.run inp t
      let s' := AvalonAxi4LiteBridge.machine.run inp (t + 1)
      (s.mAxiAwvalid = true → (inp t).mAxiAwready = false →
        s'.mAxiAwvalid = true ∧ s'.mAxiAwaddr = s.mAxiAwaddr) ∧
      (s.mAxiWvalid = true → (inp t).mAxiWready = false →
        s'.mAxiWvalid = true ∧ s'.mAxiWdata = s.mAxiWdata ∧ s'.mAxiWstrb = s.mAxiWstrb) ∧
      (s.mAxiArvalid = true → (inp t).mAxiArready = false →
        s'.mAxiArvalid = true ∧ s'.mAxiAraddr = s.mAxiAraddr)) ∧
    (∀ (inp : Nat → Axi4LiteSlave.Input addrWidth dataWidth) (t : Nat),
      let s := Axi4LiteSlave.machine.run inp t
      let s' := Axi4LiteSlave.machine.run inp (t + 1)
      (s.sAxiBvalid = true → (inp t).sAxiBready = false →
        s'.sAxiBvalid = true ∧ s'.sAxiBresp = s.sAxiBresp) ∧
      (s.sAxiRvalid = true → (inp t).sAxiRready = false →
        s'.sAxiRvalid = true ∧ s'.sAxiRdata = s.sAxiRdata ∧ s'.sAxiRresp = s.sAxiRresp)) := by
  constructor
  · intro inp t s s'
    exact ⟨AvalonAxi4LiteBridge.aw_stable, AvalonAxi4LiteBridge.w_stable,
      AvalonAxi4LiteBridge.ar_stable⟩
  · intro inp t s s'
    exact ⟨Axi4LiteSlave.b_stable, Axi4LiteSlave.r_stable (Axi4LiteSlave.readExclusive_run inp t)⟩

end AxiAlu
