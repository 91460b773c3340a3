import AxiAlu.Metatheory.BridgeSteps
import AxiAlu.Metatheory.EngineRefinement
import AxiAlu.Metatheory.SlaveSteps

/-!
The peripheral refines the abstract accelerator, cycle for cycle. Bridge and slave
are locked to one phase of one command: the phase fixes every control bit of both
and says which of their registers carry the command. Bank and core follow the
engine on the writes that the phase presents.
-/
namespace AxiAlu
open Clocked
variable {addrWidth dataWidth : Nat}

namespace Phase

def bridgeState : Phase addrWidth dataWidth → BridgeState
  | .idle => .idle
  | .posted _ => .write
  | .buffered _ | .pulsing _ => .writeResp
  | .asked _ => .readAddr
  | .sampling _ | .returning _ => .readData

def isPosted : Phase addrWidth dataWidth → Bool
  | .posted _ => true
  | _ => false

def isBuffered : Phase addrWidth dataWidth → Bool
  | .buffered _ => true
  | _ => false

def isPulsing : Phase addrWidth dataWidth → Bool
  | .pulsing _ => true
  | _ => false

def isAsked : Phase addrWidth dataWidth → Bool
  | .asked _ => true
  | _ => false

def isSampling : Phase addrWidth dataWidth → Bool
  | .sampling _ => true
  | _ => false

def isReturning : Phase addrWidth dataWidth → Bool
  | .returning _ => true
  | _ => false

section Next
variable (p : Phase addrWidth dataWidth) (command : Option (Command addrWidth dataWidth))
  (read : BitVec addrWidth → BitVec dataWidth)

/-- Each later phase of a command is entered from the phase before it only. -/
theorem next_flags :
    (p.next command read).isBuffered = p.isPosted ∧
      (p.next command read).isPulsing = p.isBuffered ∧
      (p.next command read).isSampling = p.isAsked ∧
      (p.next command read).isReturning = p.isSampling := by
  cases p with
  | idle =>
      cases command with
      | none => exact ⟨rfl, rfl, rfl, rfl⟩
      | some command => cases command <;> exact ⟨rfl, rfl, rfl, rfl⟩
  | posted _ | buffered _ | pulsing _ | asked _ | sampling _ | returning _ =>
      exact ⟨rfl, rfl, rfl, rfl⟩

end Next
end Phase

namespace AvalonAxi4LiteAlu

def Carries (s : AvalonAxi4LiteAlu addrWidth dataWidth) : Phase addrWidth dataWidth → Prop
  | .idle => True
  | .posted w =>
      s.bridge.addrQ = w.addr ∧ s.bridge.writedataQ = w.data ∧ s.bridge.byteenableQ = w.strb
  | .buffered w => s.slave.awaddrQ = w.addr ∧ s.slave.wdataQ = w.data ∧ s.slave.wstrbQ = w.strb
  | .pulsing w => s.slave.wrAddr = w.addr ∧ s.slave.wrData = w.data ∧ s.slave.wrStrb = w.strb
  | .asked addr => s.bridge.addrQ = addr
  | .sampling addr => s.slave.araddrQ = addr
  | .returning data => s.slave.rdataQ = data

/-- Bridge and slave are in a phase: all their control bits follow from it. -/
structure InPhase (s : AvalonAxi4LiteAlu addrWidth dataWidth) (p : Phase addrWidth dataWidth) :
    Prop where
  state : s.bridge.stateQ = p.bridgeState
  awDone : s.bridge.awDoneQ = (p.isBuffered || p.isPulsing)
  wDone : s.bridge.wDoneQ = (p.isBuffered || p.isPulsing)
  awV : s.slave.awV = p.isBuffered
  wV : s.slave.wV = p.isBuffered
  bvalid : s.slave.bvalidQ = p.isPulsing
  wrEn : s.slave.wrEn = p.isPulsing
  pending : s.slave.readPending = p.isSampling
  rvalid : s.slave.rvalidQ = p.isReturning
  carries : s.Carries p

theorem inPhase_reset : InPhase (reset : AvalonAxi4LiteAlu addrWidth dataWidth) .idle :=
  ⟨rfl, rfl, rfl, rfl, rfl, rfl, rfl, rfl, rfl, trivial⟩

section Steps
variable {s : AvalonAxi4LiteAlu addrWidth dataWidth} {p : Phase addrWidth dataWidth}
  (i : Avalon addrWidth dataWidth)

/-- A phase makes the handshakes that lead out of it and no others. -/
theorem InPhase.fires (h : s.InPhase p) :
    s.slave.awFire s.slaveInput = p.isPosted ∧ s.slave.wFire s.slaveInput = p.isPosted ∧
      s.slave.pairs = p.isBuffered ∧ s.slaveInput.sAxiBready = (p.isBuffered || p.isPulsing) ∧
      s.slave.arFire s.slaveInput = p.isAsked ∧ s.slave.rFire s.slaveInput = p.isReturning := by
  simp only [Axi4LiteSlave.awFire, Axi4LiteSlave.wFire, Axi4LiteSlave.pairs,
    Axi4LiteSlave.arFire, Axi4LiteSlave.rFire, Axi4LiteSlave.sAxiAwready,
    Axi4LiteSlave.sAxiWready, Axi4LiteSlave.sAxiArready, Axi4LiteSlave.sAxiRvalid, slaveInput,
    AvalonAxi4LiteBridge.mAxiAwvalid, AvalonAxi4LiteBridge.mAxiWvalid,
    AvalonAxi4LiteBridge.mAxiBready, AvalonAxi4LiteBridge.mAxiArvalid,
    AvalonAxi4LiteBridge.mAxiRready, h.state, h.awDone, h.wDone, h.awV, h.wV, h.bvalid,
    h.pending, h.rvalid]
  cases p <;> exact ⟨rfl, rfl, rfl, rfl, rfl, rfl⟩

theorem InPhase.slave_step (h : s.InPhase p) :
    (s.step i).slave.awV = p.isPosted ∧ (s.step i).slave.wV = p.isPosted ∧
      (s.step i).slave.bvalidQ = p.isBuffered ∧ (s.step i).slave.wrEn = p.isBuffered ∧
      (s.step i).slave.readPending = p.isAsked ∧ (s.step i).slave.rvalidQ = p.isSampling := by
  obtain ⟨aw, w, pairs, bready, ar, r⟩ := h.fires
  refine ⟨?_, ?_, ?_, (Axi4LiteSlave.step_wrEn _ _).trans pairs,
    (Axi4LiteSlave.step_readPending _ _).trans ar, ?_⟩
  · refine (Axi4LiteSlave.step_awV _ _).trans ?_
    rw [pairs, h.awV, aw]
    cases p <;> rfl
  · refine (Axi4LiteSlave.step_wV _ _).trans ?_
    rw [pairs, h.wV, w]
    cases p <;> rfl
  · refine (Axi4LiteSlave.step_bvalidQ _ _).trans ?_
    rw [pairs, h.bvalid, bready]
    cases p <;> rfl
  · refine (Axi4LiteSlave.step_rvalidQ _ _).trans ?_
    rw [r, h.pending, h.rvalid]
    cases p <;> rfl

theorem InPhase.bridge_step (h : s.InPhase p) :
    let p' := p.next i.command s.bank.rdData
    (s.step i).bridge.stateQ = p'.bridgeState ∧
      (s.step i).bridge.awDoneQ = (p'.isBuffered || p'.isPulsing) ∧
      (s.step i).bridge.wDoneQ = (p'.isBuffered || p'.isPulsing) := by
  have state := h.state
  have awDone := h.awDone
  have wDone := h.wDone
  change (s.bridge.step (s.bridgeInput i)).stateQ = _ ∧
    (s.bridge.step (s.bridgeInput i)).awDoneQ = _ ∧ (s.bridge.step (s.bridgeInput i)).wDoneQ = _
  cases p with
  | idle =>
      cases hw : i.avsWrite with
      | true =>
          rw [AvalonAxi4LiteBridge.step_idle_write _ state hw]
          simp [Avalon.command, hw, Phase.next, Phase.accept, Phase.bridgeState,
            Phase.isBuffered, Phase.isPulsing]
      | false =>
          cases hr : i.avsRead with
          | true =>
              rw [AvalonAxi4LiteBridge.step_idle_read _ state hw hr]
              simp [Avalon.command, hw, hr, Phase.next, Phase.accept, Phase.bridgeState,
                Phase.isBuffered, Phase.isPulsing]
          | false =>
              rw [AvalonAxi4LiteBridge.step_idle_quiet _ state hw hr]
              simp only [Avalon.command, hw, hr]
              exact ⟨state, awDone, wDone⟩
  | posted w =>
      have awready : (s.bridgeInput i).mAxiAwready = true := congrArg Bool.not h.awV
      have wready : (s.bridgeInput i).mAxiWready = true := congrArg Bool.not h.wV
      rw [AvalonAxi4LiteBridge.step_write _ state, awready, wready]
      simp [Phase.next, Phase.bridgeState, Phase.isBuffered]
  | buffered w =>
      have bvalid : (s.bridgeInput i).mAxiBvalid = false := h.bvalid
      rw [AvalonAxi4LiteBridge.step_writeResp _ state, bvalid]
      exact ⟨state, awDone, wDone⟩
  | pulsing w =>
      have bvalid : (s.bridgeInput i).mAxiBvalid = true := h.bvalid
      rw [AvalonAxi4LiteBridge.step_writeResp _ state, bvalid]
      exact ⟨rfl, rfl, rfl⟩
  | asked addr =>
      have arready : (s.bridgeInput i).mAxiArready = true :=
        congrArg₂ (fun a b => !a && !b) h.pending h.rvalid
      rw [AvalonAxi4LiteBridge.step_readAddr _ state, arready]
      exact ⟨rfl, awDone, wDone⟩
  | sampling addr =>
      have rvalid : (s.bridgeInput i).mAxiRvalid = false := h.rvalid
      rw [AvalonAxi4LiteBridge.step_readData _ state, rvalid]
      exact ⟨state, awDone, wDone⟩
  | returning data =>
      have rvalid : (s.bridgeInput i).mAxiRvalid = true := h.rvalid
      rw [AvalonAxi4LiteBridge.step_readData _ state, rvalid]
      exact ⟨rfl, awDone, wDone⟩

/-- The command moves on to the registers of its next phase. -/
theorem InPhase.carries_step (h : s.InPhase p) :
    (s.step i).Carries (p.next i.command s.bank.rdData) := by
  obtain ⟨aw, w, pairs, _, ar, _⟩ := h.fires
  have carries := h.carries
  cases p with
  | idle =>
      cases hw : i.avsWrite with
      | true =>
          simp only [Avalon.command, hw, if_true, Phase.next, Phase.accept, Carries, step,
            AvalonAxi4LiteBridge.step_idle_write (s.bridgeInput i) h.state hw]
          exact ⟨rfl, rfl, rfl⟩
      | false =>
          cases hr : i.avsRead with
          | true =>
              simp only [Avalon.command, hw, hr, if_true, Phase.next, Phase.accept, Carries,
                step, Bool.false_eq_true, if_false,
                AvalonAxi4LiteBridge.step_idle_read (s.bridgeInput i) h.state hw hr]
              rfl
          | false =>
              simp only [Avalon.command, hw, hr]
              trivial
  | posted v =>
      simp only [Phase.next, Carries, step, Axi4LiteSlave.step_awaddrQ,
        Axi4LiteSlave.step_wdataQ, Axi4LiteSlave.step_wstrbQ, aw, w]
      exact carries
  | buffered v =>
      simp only [Phase.next, Carries, step, Axi4LiteSlave.step_wrAddr,
        Axi4LiteSlave.step_wrData, Axi4LiteSlave.step_wrStrb, pairs]
      exact carries
  | pulsing v => trivial
  | asked addr =>
      simp only [Phase.next, Carries, step, Axi4LiteSlave.step_araddrQ, ar]
      exact carries
  | sampling addr =>
      simp only [Phase.next, Carries, step, Axi4LiteSlave.step_rdataQ, h.pending]
      exact congrArg s.bank.rdData carries
  | returning data => trivial

theorem InPhase.step (h : s.InPhase p) :
    (s.step i).InPhase (p.next i.command s.bank.rdData) := by
  obtain ⟨buffered, pulsing, sampling, returning⟩ := p.next_flags i.command s.bank.rdData
  obtain ⟨state, awDone, wDone⟩ := h.bridge_step i
  obtain ⟨awV, wV, bvalid, wrEn, pending, rvalid⟩ := h.slave_step i
  exact ⟨state, awDone, wDone, awV.trans buffered.symm, wV.trans buffered.symm,
    bvalid.trans pulsing.symm, wrEn.trans pulsing.symm, pending.trans sampling.symm,
    rvalid.trans returning.symm, h.carries_step i⟩

theorem InPhase.writePort (h : s.InPhase p) : s.writePort.write? = p.write? := by
  have wrEn := h.wrEn
  have carries := h.carries
  simp only [BankAlu.Input.write?, Write.ofPort, AvalonAxi4LiteAlu.writePort, wrEn]
  cases p with
  | pulsing w =>
      obtain ⟨addr, data, strb⟩ := carries
      simp only [Phase.isPulsing, Phase.write?, addr, data, strb, if_true]
  | idle | posted _ | buffered _ | asked _ | sampling _ | returning _ => rfl

theorem InPhase.waitrequest (h : s.InPhase p) : s.avsWaitrequest = decide (p ≠ .idle) := by
  rw [avsWaitrequest, AvalonAxi4LiteBridge.avsWaitrequest, h.state]
  cases p <;> rfl

/-- The word that a phase hands back is on the bus in the cycle after it. -/
theorem response_step (h : s.InPhase p) :
    p.data? = if (s.step i).avsReaddatavalid then some (s.step i).avsReaddata else none := by
  have rvalid : (s.bridgeInput i).mAxiRvalid = p.isReturning := h.rvalid
  have valid : (s.step i).avsReaddatavalid = (p.isReturning && p.bridgeState == .readData) := by
    refine (AvalonAxi4LiteBridge.step_avsReaddatavalid _).trans ?_
    rw [AvalonAxi4LiteBridge.rFire, AvalonAxi4LiteBridge.mAxiRready, rvalid, h.state]
  rw [valid]
  cases p with
  | returning data =>
      have fires : s.bridge.rFire (s.bridgeInput i) = true := by
        rw [AvalonAxi4LiteBridge.rFire, AvalonAxi4LiteBridge.mAxiRready, rvalid, h.state]
        rfl
      have word : (s.step i).avsReaddata = data :=
        (AvalonAxi4LiteBridge.step_avsReaddata _ fires).trans h.carries
      rw [word]
      rfl
  | idle | posted _ | buffered _ | pulsing _ | asked _ | sampling _ => rfl

end Steps

/-- How the peripheral stands for a state of the accelerator. -/
structure Refines (s : AvalonAxi4LiteAlu addrWidth dataWidth)
    (x : Accelerator addrWidth dataWidth) : Prop where
  phase : s.InPhase x.phase
  engine : s.bankAlu.Tracks x.engine
  response : x.response = if s.avsReaddatavalid then some s.avsReaddata else none

theorem refines_step {s : AvalonAxi4LiteAlu addrWidth dataWidth}
    {x : Accelerator addrWidth dataWidth} (h : s.Refines x) (i : Avalon addrWidth dataWidth) :
    (s.step i).Refines (x.step i) := by
  have read : (s.bank.rdData : BitVec addrWidth → BitVec dataWidth) = x.engine.read := by
    funext addr
    exact h.engine.rdData addr
  refine ⟨?_, ?_, response_step i h.phase⟩
  · have phase := h.phase.step i
    rw [read] at phase
    exact phase
  · have engine := BankAlu.tracks_step h.engine s.writePort
    rw [h.phase.writePort] at engine
    exact engine

/-- The peripheral refines the accelerator over whole runs. -/
theorem refines_run (inp : Nat → Avalon addrWidth dataWidth) (t : Nat) :
    (machine.run inp t).Refines (Accelerator.machine.run inp t) :=
  Machine.run_simulates machine Accelerator.machine Refines id
    ⟨inPhase_reset, BankAlu.tracks_reset, rfl⟩ (fun _ _ i h => refines_step h i) inp t

end AvalonAxi4LiteAlu
end AxiAlu
