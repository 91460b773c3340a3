import AxiAlu.Metatheory.BusReads
import AxiAlu.Rtl.EncodedBridge

/-!
The control bits of bridge and slave inside the peripheral. Of their combinations only
those of the seven phases are ever reached, and of the eight encodings of the bridge's
state only the five named ones. What the master sees of this is its timing: waitrequest
and readdatavalid come at fixed distances from the acceptance of a command.
-/
namespace AxiAlu
open Clocked
variable {addrWidth dataWidth : Nat}

namespace AvalonAxi4LiteBridge
open EncodedBridge

section Encoding
variable {s : AvalonAxi4LiteBridge addrWidth dataWidth} (i : Input addrWidth dataWidth)

theorem encode_step_idle (h : s.stateQ = .idle) : (s.step i).encode = s.encode.step i := by
  cases hw : i.avs.avsWrite with
  | true =>
      rw [step_idle_write i h hw]
      simp [encode, EncodedBridge.step, EncodedBridge.stateD, EncodedBridge.avsWaitrequest,
        BridgeState.code, stIdle, stWrite, stWriteResp, stReadData, h, hw]
  | false =>
      cases hr : i.avs.avsRead with
      | true =>
          rw [step_idle_read i h hw hr]
          simp [encode, EncodedBridge.step, EncodedBridge.stateD, EncodedBridge.avsWaitrequest,
            BridgeState.code, stIdle, stWrite, stWriteResp, stReadAddr, stReadData, h, hw, hr]
      | false =>
          rw [step_idle_quiet i h hw hr]
          simp [encode, EncodedBridge.step, EncodedBridge.stateD, EncodedBridge.avsWaitrequest,
            BridgeState.code, stIdle, stWrite, stWriteResp, stReadData, h, hw, hr]

theorem encode_step : (s.step i).encode = s.encode.step i := by
  cases hs : s.stateQ with
  | idle => exact encode_step_idle i hs
  | write =>
      rw [step_write i hs]
      cases ha : i.mAxiAwready <;> cases hw : i.mAxiWready <;>
        cases hd : s.awDoneQ <;> cases hd' : s.wDoneQ <;>
        simp [encode, EncodedBridge.step, EncodedBridge.stateD, BridgeState.code, stIdle,
          stWrite, stWriteResp, stReadData, hs, ha, hw, hd, hd']
  | writeResp =>
      rw [step_writeResp i hs]
      cases hb : i.mAxiBvalid <;>
        simp [encode, EncodedBridge.step, EncodedBridge.stateD, BridgeState.code, stIdle,
          stWrite, stWriteResp, stReadData, hs, hb]
  | readAddr =>
      rw [step_readAddr i hs]
      cases hr : i.mAxiArready <;>
        simp [encode, EncodedBridge.step, EncodedBridge.stateD, BridgeState.code, stIdle,
          stWrite, stWriteResp, stReadAddr, stReadData, hs, hr]
  | readData =>
      rw [step_readData i hs]
      cases hr : i.mAxiRvalid <;>
        simp [encode, EncodedBridge.step, EncodedBridge.stateD, BridgeState.code, stIdle,
          stWrite, stWriteResp, stReadAddr, stReadData, hs, hr]

end Encoding

theorem encode_named (s : AvalonAxi4LiteBridge addrWidth dataWidth) :
    s.encode.stateQ ∈ [stIdle, stWrite, stWriteResp, stReadAddr, stReadData] := by
  change s.stateQ.code ∈ _
  cases s.stateQ <;> decide

end AvalonAxi4LiteBridge

namespace Axi4LiteSlave

def WriteSideEmpty (s : Axi4LiteSlave addrWidth dataWidth) : Prop :=
  s.awV = false ∧ s.wV = false ∧ s.bvalidQ = false ∧ s.wrEn = false

def ReadSideEmpty (s : Axi4LiteSlave addrWidth dataWidth) : Prop :=
  s.readPending = false ∧ s.rvalidQ = false

end Axi4LiteSlave

namespace AvalonAxi4LiteAlu

/-- What each state of the bridge says of the control bits. -/
def Locked (s : AvalonAxi4LiteAlu addrWidth dataWidth) : Prop :=
  match s.bridge.stateQ with
  | .idle | .write | .readAddr =>
      s.slave.WriteSideEmpty ∧ s.slave.ReadSideEmpty ∧
        s.bridge.awDoneQ = false ∧ s.bridge.wDoneQ = false
  | .writeResp =>
      s.slave.ReadSideEmpty ∧
        (s.slave.awV = true ∧ s.slave.wV = true ∧ s.slave.bvalidQ = false ∧
            s.slave.wrEn = false ∨
          s.slave.awV = false ∧ s.slave.wV = false ∧ s.slave.bvalidQ = true ∧
            s.slave.wrEn = true)
  | .readData =>
      s.slave.WriteSideEmpty ∧
        (s.slave.readPending = true ∧ s.slave.rvalidQ = false ∨
          s.slave.readPending = false ∧ s.slave.rvalidQ = true)

theorem InPhase.locked {s : AvalonAxi4LiteAlu addrWidth dataWidth}
    {p : Phase addrWidth dataWidth} (h : s.InPhase p) : s.Locked := by
  rw [Locked, h.state]
  cases p with
  | idle | posted _ | asked _ =>
      exact ⟨⟨h.awV, h.wV, h.bvalid, h.wrEn⟩, ⟨h.pending, h.rvalid⟩, h.awDone, h.wDone⟩
  | buffered _ => exact ⟨⟨h.pending, h.rvalid⟩, Or.inl ⟨h.awV, h.wV, h.bvalid, h.wrEn⟩⟩
  | pulsing _ => exact ⟨⟨h.pending, h.rvalid⟩, Or.inr ⟨h.awV, h.wV, h.bvalid, h.wrEn⟩⟩
  | sampling _ => exact ⟨⟨h.awV, h.wV, h.bvalid, h.wrEn⟩, Or.inl ⟨h.pending, h.rvalid⟩⟩
  | returning _ => exact ⟨⟨h.awV, h.wV, h.bvalid, h.wrEn⟩, Or.inr ⟨h.pending, h.rvalid⟩⟩

section Runs
variable (inp : Nat → Avalon addrWidth dataWidth)

/-- The bridge with its three state bits, on what the peripheral feeds its bridge. -/
def encodedBridge : Nat → EncodedBridge addrWidth dataWidth :=
  EncodedBridge.machine.run fun c => (machine.run inp c).bridgeInput (inp c)

theorem encodedBridge_eq (t : Nat) :
    encodedBridge inp t = (machine.run inp t).bridge.encode :=
  (Machine.run_component machine EncodedBridge.machine (fun s => s.bridge.encode) bridgeInput
    rfl (fun _ _ => AvalonAxi4LiteBridge.encode_step _) inp t).symm

theorem waitrequest_iff (t : Nat) :
    (machine.run inp t).avsWaitrequest = true ↔
      ∃ n, n < t ∧ t ≤ n + 3 ∧ (acceptedAt inp n).isSome = true := by
  rw [waitrequest_eq, decide_eq_true_iff, acceptedAt_eq]
  exact Accelerator.busy_iff inp t

theorem slave_empty_of_accepted {n : Nat} (accepted : (acceptedAt inp n).isSome = true) :
    (machine.run inp n).slave.WriteSideEmpty ∧ (machine.run inp n).slave.ReadSideEmpty := by
  have free : (machine.run inp n).bridge.stateQ = .idle := by
    by_contra busy
    have waiting : (machine.run inp n).avsWaitrequest = true := bne_iff_ne.mpr busy
    rw [acceptedAt, waiting] at accepted
    cases accepted
  have locked := (refines_run inp n).phase.locked
  rw [Locked, free] at locked
  exact ⟨locked.1, locked.2.1⟩

end Runs

/-- In every run of the peripheral: bridge and slave are locked to each other in every
cycle, whatever the Avalon inputs do; the three state bits of the bridge hold a named
state; no command finds anything of an earlier one in the slave; no state is stuck, a
command being accepted again within three cycles; waitrequest is up in the three cycles
after each accepted command, and readdatavalid in the fourth after each accepted read,
and at no other time. -/
theorem phases_locked (inp : Nat → Avalon addrWidth dataWidth) :
    (∀ t, (machine.run inp t).Locked) ∧
    (∀ t, encodedBridge inp t = (machine.run inp t).bridge.encode ∧
      (encodedBridge inp t).stateQ ∈ [EncodedBridge.stIdle, EncodedBridge.stWrite,
        EncodedBridge.stWriteResp, EncodedBridge.stReadAddr, EncodedBridge.stReadData]) ∧
    (∀ n, (acceptedAt inp n).isSome = true →
      (machine.run inp n).slave.WriteSideEmpty ∧ (machine.run inp n).slave.ReadSideEmpty) ∧
    (∀ t, ∃ k, k ≤ 3 ∧ (machine.run inp (t + k)).avsWaitrequest = false) ∧
    (∀ t, (machine.run inp t).avsWaitrequest = true ↔
      ∃ n, n < t ∧ t ≤ n + 3 ∧ (acceptedAt inp n).isSome = true) ∧
    (∀ t, (machine.run inp t).avsReaddatavalid = true ↔
      ∃ n addr, t = n + 4 ∧ acceptedAt inp n = some (.read addr)) := by
  refine ⟨fun t => (refines_run inp t).phase.locked, ?_, ?_, ?_, waitrequest_iff inp, ?_⟩
  · intro t
    have coded := encodedBridge_eq inp t
    refine ⟨coded, ?_⟩
    rw [coded]
    exact AvalonAxi4LiteBridge.encode_named _
  · exact fun n => slave_empty_of_accepted inp
  · intro t
    obtain ⟨k, hk, idle⟩ := Accelerator.idle_soon inp t
    refine ⟨k, hk, ?_⟩
    rw [waitrequest_eq, idle]
    rfl
  · intro t
    rw [← responds_iff, responseAt, observe]
    cases (machine.run inp t).avsReaddatavalid <;> simp

end AvalonAxi4LiteAlu
end AxiAlu
