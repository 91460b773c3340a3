import AxiAlu.Clocked.Progress
import AxiAlu.Rtl.EncodedBridge

/-!
The bridge from any contents of its registers, the encodings that name no state
included. Against a slave that leaves no valid and no ready of the bridge unanswered
for ever it always comes to its idle state; and from there on neither side can tell it
from a bridge that comes out of reset.
-/
namespace AxiAlu.EncodedBridge
open Clocked
variable {addrWidth dataWidth : Nat}

/-- What the bridge may wait for follows from these registers. -/
def control (s : EncodedBridge addrWidth dataWidth) : BitVec 3 × Bool × Bool :=
  (s.stateQ, s.awDoneQ, s.wDoneQ)

/-- The handshakes left until the idle state. An encoding that names no state is left
in the next cycle. -/
def handshakesLeft : BitVec 3 × Bool × Bool → Nat
  | (state, awDone, wDone) =>
      if state = stIdle then 0
      else if state = stWrite then 2 + (!awDone).toNat + (!wDone).toNat
      else if state = stReadAddr then 2
      else 1

theorem handshakesLeft_eq_zero {s : EncodedBridge addrWidth dataWidth} :
    handshakesLeft s.control = 0 ↔ s.stateQ = stIdle := by
  rw [control, handshakesLeft]
  split_ifs with idle write readAddr <;> simp [idle]

section Steps
variable {s : EncodedBridge addrWidth dataWidth}
  (i : AvalonAxi4LiteBridge.Input addrWidth dataWidth)

theorem control_write (h : s.stateQ = stWrite) :
    (s.step i).control =
      (if (s.awDoneQ || i.mAxiAwready) && (s.wDoneQ || i.mAxiWready) then stWriteResp else stWrite,
        s.awDoneQ || i.mAxiAwready, s.wDoneQ || i.mAxiWready) := by
  cases ha : i.mAxiAwready <;> cases hw : i.mAxiWready <;>
    simp [control, step, stateD, h, ha, hw, stIdle, stWrite, stWriteResp, stReadData]

theorem control_writeResp (h : s.stateQ = stWriteResp) :
    (s.step i).control = if i.mAxiBvalid then (stIdle, false, false) else s.control := by
  cases hb : i.mAxiBvalid <;>
    simp [control, step, stateD, h, hb, stIdle, stWrite, stWriteResp, stReadData]

theorem control_readAddr (h : s.stateQ = stReadAddr) :
    (s.step i).control =
      (if i.mAxiArready then stReadData else stReadAddr, s.awDoneQ, s.wDoneQ) := by
  cases hr : i.mAxiArready <;>
    simp [control, step, stateD, h, hr, stIdle, stWrite, stWriteResp, stReadAddr, stReadData]

theorem control_readData (h : s.stateQ = stReadData) :
    (s.step i).control =
      (if i.mAxiRvalid then stIdle else stReadData, s.awDoneQ, s.wDoneQ) := by
  cases hr : i.mAxiRvalid <;>
    simp [control, step, stateD, h, hr, stIdle, stWrite, stWriteResp, stReadAddr, stReadData]

theorem control_unnamed (h : s.stateQ ∉ [stIdle, stWrite, stWriteResp, stReadAddr, stReadData]) :
    (s.step i).control = (stIdle, s.awDoneQ, s.wDoneQ) := by
  simp only [List.mem_cons, List.not_mem_nil, or_false, not_or] at h
  obtain ⟨idle, write, writeResp, readAddr, readData⟩ := h
  simp [control, step, stateD, idle, write, writeResp, readAddr, readData]

end Steps

theorem state_cases (state : BitVec 3) :
    state = stIdle ∨ state = stWrite ∨ state = stWriteResp ∨ state = stReadAddr ∨
      state = stReadData ∨ state ∉ [stIdle, stWrite, stWriteResp, stReadAddr, stReadData] := by
  revert state
  decide

def answered (s : EncodedBridge addrWidth dataWidth)
    (i : AvalonAxi4LiteBridge.Input addrWidth dataWidth) : Bool :=
  if s.stateQ = stWrite then
    s.awDoneQ && s.wDoneQ || !s.awDoneQ && i.mAxiAwready || !s.wDoneQ && i.mAxiWready
  else if s.stateQ = stWriteResp then i.mAxiBvalid
  else if s.stateQ = stReadAddr then i.mAxiArready
  else if s.stateQ = stReadData then i.mAxiRvalid
  else true

section Answers
variable {s : EncodedBridge addrWidth dataWidth}
  (i : AvalonAxi4LiteBridge.Input addrWidth dataWidth)

theorem answered_write (h : s.stateQ = stWrite) :
    s.answered i =
      (s.awDoneQ && s.wDoneQ || !s.awDoneQ && i.mAxiAwready || !s.wDoneQ && i.mAxiWready) :=
  if_pos h

theorem answered_writeResp (h : s.stateQ = stWriteResp) : s.answered i = i.mAxiBvalid := by
  simp [answered, h, stWrite, stWriteResp]

theorem answered_readAddr (h : s.stateQ = stReadAddr) : s.answered i = i.mAxiArready := by
  simp [answered, h, stWrite, stWriteResp, stReadAddr]

theorem answered_readData (h : s.stateQ = stReadData) : s.answered i = i.mAxiRvalid := by
  simp [answered, h, stWrite, stWriteResp, stReadAddr, stReadData]

theorem answered_unnamed (h : s.stateQ ∉ [stIdle, stWrite, stWriteResp, stReadAddr, stReadData]) :
    s.answered i = true := by
  simp only [List.mem_cons, List.not_mem_nil, or_false, not_or] at h
  simp [answered, h]

end Answers

/-- A busy bridge has fewer handshakes left after an answer, and without one it keeps
waiting for the same. -/
theorem control_step {s : EncodedBridge addrWidth dataWidth}
    (busy : handshakesLeft s.control ≠ 0) (i : AvalonAxi4LiteBridge.Input addrWidth dataWidth) :
    if s.answered i then handshakesLeft (s.step i).control < handshakesLeft s.control
    else (s.step i).control = s.control := by
  rcases state_cases s.stateQ with h | h | h | h | h | h
  · exact absurd (handshakesLeft_eq_zero.mpr h) busy
  · rw [control_write i h, answered_write i h, control, h]
    cases s.awDoneQ <;> cases s.wDoneQ <;> cases i.mAxiAwready <;> cases i.mAxiWready <;> decide
  · rw [control_writeResp i h, answered_writeResp i h]
    cases i.mAxiBvalid with
    | false => rfl
    | true => exact Nat.pos_of_ne_zero busy
  · rw [control_readAddr i h, answered_readAddr i h, control, h]
    cases i.mAxiArready <;> cases s.awDoneQ <;> cases s.wDoneQ <;> decide
  · rw [control_readData i h, answered_readData i h, control, h]
    cases i.mAxiRvalid <;> cases s.awDoneQ <;> cases s.wDoneQ <;> decide
  · rw [control_unnamed i h, answered_unnamed i h]
    exact Nat.pos_of_ne_zero busy

/-- A slave that leaves no valid and no ready of the bridge unanswered for ever. -/
structure Responsive (run : Nat → EncodedBridge addrWidth dataWidth)
    (inp : Nat → AvalonAxi4LiteBridge.Input addrWidth dataWidth) : Prop where
  aw : ∀ t, (∀ c, t ≤ c → (run c).mAxiAwvalid = true) → ∃ c, t ≤ c ∧ (inp c).mAxiAwready = true
  w : ∀ t, (∀ c, t ≤ c → (run c).mAxiWvalid = true) → ∃ c, t ≤ c ∧ (inp c).mAxiWready = true
  b : ∀ t, (∀ c, t ≤ c → (run c).mAxiBready = true) → ∃ c, t ≤ c ∧ (inp c).mAxiBvalid = true
  ar : ∀ t, (∀ c, t ≤ c → (run c).mAxiArvalid = true) → ∃ c, t ≤ c ∧ (inp c).mAxiArready = true
  r : ∀ t, (∀ c, t ≤ c → (run c).mAxiRready = true) → ∃ c, t ≤ c ∧ (inp c).mAxiRvalid = true

section Runs
variable {s₀ : EncodedBridge addrWidth dataWidth}
  {inp : Nat → AvalonAxi4LiteBridge.Input addrWidth dataWidth}

def runFrom (s₀ : EncodedBridge addrWidth dataWidth)
    (inp : Nat → AvalonAxi4LiteBridge.Input addrWidth dataWidth) :
    Nat → EncodedBridge addrWidth dataWidth :=
  (machine.startingAt s₀).run inp

theorem runFrom_succ (t : Nat) : runFrom s₀ inp (t + 1) = (runFrom s₀ inp t).step (inp t) := rfl

/-- While its control is kept the bridge holds the same valid or ready, so that the
slave answers it. -/
theorem answered_of_kept (responsive : Responsive (runFrom s₀ inp) inp) {t : Nat}
    (kept : ∀ c, t ≤ c → (runFrom s₀ inp c).control = (runFrom s₀ inp t).control) :
    ∃ c, t ≤ c ∧ (runFrom s₀ inp c).answered (inp c) = true := by
  have state : ∀ c, t ≤ c → (runFrom s₀ inp c).stateQ = (runFrom s₀ inp t).stateQ :=
    fun c later => congrArg (fun k => k.1) (kept c later)
  have awDone : ∀ c, t ≤ c → (runFrom s₀ inp c).awDoneQ = (runFrom s₀ inp t).awDoneQ :=
    fun c later => congrArg (fun k => k.2.1) (kept c later)
  have wDone : ∀ c, t ≤ c → (runFrom s₀ inp c).wDoneQ = (runFrom s₀ inp t).wDoneQ :=
    fun c later => congrArg (fun k => k.2.2) (kept c later)
  have stays : ∀ {name}, (runFrom s₀ inp t).stateQ = name → ∀ c, t ≤ c →
      (runFrom s₀ inp c).stateQ = name := fun h c later => (state c later).trans h
  rcases state_cases (runFrom s₀ inp t).stateQ with h | h | h | h | h | h
  · exact ⟨t, Nat.le_refl t,
      by simp [answered, h, stIdle, stWrite, stWriteResp, stReadAddr, stReadData]⟩
  · cases aw : (runFrom s₀ inp t).awDoneQ with
    | false =>
        obtain ⟨c, later, ready⟩ := responsive.aw t fun c later => by
          simp [mAxiAwvalid, stays h c later, awDone c later, aw]
        exact ⟨c, later, by simp [answered_write _ (stays h c later), awDone c later, aw, ready]⟩
    | true =>
        cases w : (runFrom s₀ inp t).wDoneQ with
        | false =>
            obtain ⟨c, later, ready⟩ := responsive.w t fun c later => by
              simp [mAxiWvalid, stays h c later, wDone c later, w]
            exact ⟨c, later, by simp [answered_write _ (stays h c later), wDone c later, w, ready]⟩
        | true => exact ⟨t, Nat.le_refl t, by simp [answered_write _ h, aw, w]⟩
  · obtain ⟨c, later, valid⟩ := responsive.b t fun c later => by
      simp [mAxiBready, stays h c later]
    exact ⟨c, later, (answered_writeResp _ (stays h c later)).trans valid⟩
  · obtain ⟨c, later, ready⟩ := responsive.ar t fun c later => by
      simp [mAxiArvalid, stays h c later]
    exact ⟨c, later, (answered_readAddr _ (stays h c later)).trans ready⟩
  · obtain ⟨c, later, valid⟩ := responsive.r t fun c later => by
      simp [mAxiRready, stays h c later]
    exact ⟨c, later, (answered_readData _ (stays h c later)).trans valid⟩
  · exact ⟨t, Nat.le_refl t, answered_unnamed _ h⟩

theorem control_not_forever (responsive : Responsive (runFrom s₀ inp) inp) (t : Nat)
    (busy : handshakesLeft (runFrom s₀ inp t).control ≠ 0) :
    ∃ c, t ≤ c ∧ (runFrom s₀ inp c).control ≠ (runFrom s₀ inp t).control := by
  by_contra never
  have kept : ∀ c, t ≤ c → (runFrom s₀ inp c).control = (runFrom s₀ inp t).control := by
    intro c later
    by_contra given
    exact never ⟨c, later, given⟩
  obtain ⟨c, later, answer⟩ := answered_of_kept responsive kept
  have falls := control_step (by rwa [kept c later]) (inp c)
  rw [if_pos answer, ← runFrom_succ, kept c later, kept (c + 1) (Nat.le_succ_of_le later)] at falls
  exact Nat.lt_irrefl _ falls

theorem idle_again (responsive : Responsive (runFrom s₀ inp) inp) (t : Nat) :
    ∃ c, t ≤ c ∧ (runFrom s₀ inp c).stateQ = stIdle := by
  have keeps_or_falls : ∀ c, handshakesLeft (runFrom s₀ inp c).control ≠ 0 →
      (runFrom s₀ inp (c + 1)).control = (runFrom s₀ inp c).control ∨
        handshakesLeft (runFrom s₀ inp (c + 1)).control <
          handshakesLeft (runFrom s₀ inp c).control := by
    intro c busy
    have step := control_step busy (inp c)
    cases answer : (runFrom s₀ inp c).answered (inp c) with
    | false =>
        rw [answer] at step
        exact Or.inl step
    | true =>
        rw [answer] at step
        exact Or.inr step
  obtain ⟨c, later, done⟩ := exists_rank_zero keeps_or_falls (control_not_forever responsive) t
  exact ⟨c, later, handshakesLeft_eq_zero.mp done⟩

end Runs

/-- What the two sides can see of the bridge in a cycle: the payload of a channel only
while it is valid. -/
structure Visible (addrWidth dataWidth : Nat) where
  waitrequest : Bool
  response : Option (BitVec dataWidth)
  aw : Option (BitVec addrWidth)
  w : Option (BitVec dataWidth × BitVec (dataWidth / 8))
  bready : Bool
  ar : Option (BitVec addrWidth)
  rready : Bool
deriving DecidableEq

def visible (s : EncodedBridge addrWidth dataWidth) : Visible addrWidth dataWidth :=
  { waitrequest := s.avsWaitrequest
    response := if s.avsReaddatavalid then some s.avsReaddata else none
    aw := if s.mAxiAwvalid then some s.addrQ else none
    w := if s.mAxiWvalid then some (s.writedataQ, s.byteenableQ) else none
    bready := s.mAxiBready
    ar := if s.mAxiArvalid then some s.addrQ else none
    rready := s.mAxiRready }

def working (s : EncodedBridge addrWidth dataWidth) :
    BitVec addrWidth × BitVec dataWidth × BitVec (dataWidth / 8) × Bool × Bool :=
  (s.addrQ, s.writedataQ, s.byteenableQ, s.awDoneQ, s.wDoneQ)

section Registers
variable (s : EncodedBridge addrWidth dataWidth)
  (i : AvalonAxi4LiteBridge.Input addrWidth dataWidth)

theorem step_stateQ : (s.step i).stateQ = s.stateD i := by
  simp only [step, apply_ite stateQ, ite_self]

theorem step_avsReaddatavalid :
    (s.step i).avsReaddatavalid = (s.stateQ == stReadData && i.mAxiRvalid) := by
  simp only [step, apply_ite avsReaddatavalid, ite_self]
  cases (s.stateQ == stReadData && i.mAxiRvalid) <;> rfl

theorem step_avsReaddata (valid : (s.step i).avsReaddatavalid = true) :
    (s.step i).avsReaddata = i.mAxiRdata := by
  rw [step_avsReaddatavalid] at valid
  simp only [step, valid, if_true]

theorem step_working_idle (idle : s.stateQ = stIdle)
    (command : (i.avs.avsWrite || i.avs.avsRead) = true) :
    (s.step i).working =
      (i.avs.avsAddress, i.avs.avsWritedata, i.avs.avsByteenable, false, false) := by
  simp [step, working, avsWaitrequest, idle, command, stIdle, stWrite, stWriteResp, stReadData]

theorem step_working_busy (busy : s.stateQ ≠ stIdle) :
    (s.step i).working =
      (s.addrQ, s.writedataQ, s.byteenableQ,
        !(s.stateQ == stWriteResp && i.mAxiBvalid) &&
          (s.awDoneQ || s.stateQ == stWrite && i.mAxiAwready),
        !(s.stateQ == stWriteResp && i.mAxiBvalid) &&
          (s.wDoneQ || s.stateQ == stWrite && i.mAxiWready)) := by
  have idle : (s.stateQ == stIdle) = false := beq_eq_false_iff_ne.mpr busy
  simp only [step, idle, Bool.false_and]
  cases (s.stateQ == stWriteResp && i.mAxiBvalid) <;>
    cases (s.stateQ == stWrite && i.mAxiAwready) <;>
    cases (s.stateQ == stWrite && i.mAxiWready) <;>
    cases (s.stateQ == stReadData && i.mAxiRvalid) <;> simp [working]

end Registers

def Alike (s s' : EncodedBridge addrWidth dataWidth) : Prop :=
  s.stateQ = s'.stateQ ∧ (s.stateQ ≠ stIdle → s.working = s'.working)

section Alike
variable {s s' : EncodedBridge addrWidth dataWidth} (h : s.Alike s')
  (i : AvalonAxi4LiteBridge.Input addrWidth dataWidth)
include h

theorem Alike.stateD : s.stateD i = s'.stateD i := by
  obtain ⟨state, working⟩ := h
  by_cases idle : s.stateQ = stIdle
  · have idle' := state.symm.trans idle
    simp [EncodedBridge.stateD, idle, idle']
  · have flags := congrArg (fun p => p.2.2.2) (working idle)
    have awDone : s.awDoneQ = s'.awDoneQ := congrArg Prod.fst flags
    have wDone : s.wDoneQ = s'.wDoneQ := congrArg Prod.snd flags
    simp only [EncodedBridge.stateD, state, awDone, wDone]

theorem Alike.step : (s.step i).Alike (s'.step i) := by
  refine ⟨?_, fun busy' => ?_⟩
  · rw [step_stateQ, step_stateQ, h.stateD]
  · obtain ⟨state, working⟩ := h
    by_cases idle : s.stateQ = stIdle
    · have command : (i.avs.avsWrite || i.avs.avsRead) = true := by
        rw [step_stateQ] at busy'
        cases hw : i.avs.avsWrite <;> cases hr : i.avs.avsRead <;>
          simp_all [EncodedBridge.stateD]
      rw [step_working_idle s i idle command,
        step_working_idle s' i (state.symm.trans idle) command]
    · have same := working idle
      simp only [EncodedBridge.working, Prod.mk.injEq] at same
      obtain ⟨addr, data, strb, awDone, wDone⟩ := same
      rw [step_working_busy s i idle, step_working_busy s' i (state ▸ idle), state, addr, data,
        strb, awDone, wDone]

/-- Alike bridges that answered the same in the cycle before look the same. -/
theorem Alike.visible (valid : s.avsReaddatavalid = s'.avsReaddatavalid)
    (data : s.avsReaddatavalid = true → s.avsReaddata = s'.avsReaddata) :
    s.visible = s'.visible := by
  obtain ⟨state, working⟩ := h
  have response : (if s.avsReaddatavalid then some s.avsReaddata else none) =
      if s'.avsReaddatavalid then some s'.avsReaddata else none := by
    rw [← valid]
    split_ifs with answered
    · rw [data answered]
    · rfl
  by_cases idle : s.stateQ = stIdle
  · have idle' := state.symm.trans idle
    simp [EncodedBridge.visible, response, avsWaitrequest, mAxiAwvalid, mAxiWvalid, mAxiBready,
      mAxiArvalid, mAxiRready, idle, idle', stIdle, stWrite, stWriteResp, stReadAddr, stReadData]
  · have same := working idle
    simp only [EncodedBridge.working, Prod.mk.injEq] at same
    obtain ⟨addr, writedata, strb, awDone, wDone⟩ := same
    have aw : s.mAxiAwvalid = s'.mAxiAwvalid := by rw [mAxiAwvalid, mAxiAwvalid, state, awDone]
    have w : s.mAxiWvalid = s'.mAxiWvalid := by rw [mAxiWvalid, mAxiWvalid, state, wDone]
    have ar : s.mAxiArvalid = s'.mAxiArvalid := congrArg (· == stReadAddr) state
    rw [EncodedBridge.visible, EncodedBridge.visible, response, aw, w, ar, addr, writedata, strb,
      avsWaitrequest, avsWaitrequest, mAxiBready, mAxiBready, mAxiRready, mAxiRready, state]

end Alike

section Runs
variable {s₀ : EncodedBridge addrWidth dataWidth}
  {inp : Nat → AvalonAxi4LiteBridge.Input addrWidth dataWidth}

/-- A bridge that is idle in cycle `n` goes on like one that comes out of reset then. -/
theorem alike_of_idle {n : Nat} (idle : (runFrom s₀ inp n).stateQ = stIdle) (k : Nat) :
    (runFrom s₀ inp (n + k)).Alike (machine.run (fun c => inp (n + c)) k) := by
  induction k with
  | zero => exact ⟨idle, fun busy => absurd idle busy⟩
  | succ k ih => exact ih.step (inp (n + k))

theorem visible_of_idle {n : Nat} (idle : (runFrom s₀ inp n).stateQ = stIdle) (k : Nat) :
    (runFrom s₀ inp (n + k + 1)).visible =
      (machine.run (fun c => inp (n + c)) (k + 1)).visible := by
  have before := alike_of_idle idle k
  have after := before.step (inp (n + k))
  refine after.visible ?_ fun valid => ?_
  · rw [step_avsReaddatavalid, step_avsReaddatavalid, before.1]
  · have valid' := valid
    rw [step_avsReaddatavalid, before.1, ← step_avsReaddatavalid] at valid'
    rw [step_avsReaddata _ _ valid, step_avsReaddata _ _ valid']

/-- From any contents of its registers, and whatever the two sides do, the bridge is idle
again and again and from some cycle on cannot be told from one that was reset in the
cycle before, if the slave leaves none of its valids and readys unanswered for ever. -/
theorem recovers (s₀ : EncodedBridge addrWidth dataWidth)
    (inp : Nat → AvalonAxi4LiteBridge.Input addrWidth dataWidth)
    (responsive : Responsive (runFrom s₀ inp) inp) :
    (∀ t, ∃ c, t ≤ c ∧ (runFrom s₀ inp c).avsWaitrequest = false) ∧
      ∃ n, ∀ k, (runFrom s₀ inp (n + k + 1)).visible =
        (machine.run (fun c => inp (n + c)) (k + 1)).visible := by
  refine ⟨fun t => ?_, ?_⟩
  · obtain ⟨c, later, idle⟩ := idle_again responsive t
    exact ⟨c, later, by simp [avsWaitrequest, idle]⟩
  · obtain ⟨n, -, idle⟩ := idle_again responsive 0
    exact ⟨n, visible_of_idle idle⟩

end Runs

/-- A slave that answers at once, met by a bridge in the encoding `7`. -/
theorem recovers_unnamed :
    let s₀ : EncodedBridge 6 32 :=
      { stateQ := 7, addrQ := 12, writedataQ := 0, byteenableQ := 0
        awDoneQ := true, wDoneQ := false
        avsReaddata := 5, avsReaddatavalid := true }
    let i : AvalonAxi4LiteBridge.Input 6 32 :=
      { avs := { avsAddress := 4, avsWrite := false, avsRead := true, avsWritedata := 0
                 avsByteenable := 0 }
        mAxiAwready := true, mAxiWready := true, mAxiBresp := 0, mAxiBvalid := true
        mAxiArready := true, mAxiRdata := 9, mAxiRresp := 0, mAxiRvalid := true }
    (∀ t, ∃ c, t ≤ c ∧ (runFrom s₀ (fun _ => i) c).avsWaitrequest = false) ∧
      ∃ n, ∀ k, (runFrom s₀ (fun _ => i) (n + k + 1)).visible =
        (machine.run (fun _ => i) (k + 1)).visible := by
  intro s₀ i
  exact recovers s₀ (fun _ => i)
    { aw := fun t _ => ⟨t, Nat.le_refl t, rfl⟩
      w := fun t _ => ⟨t, Nat.le_refl t, rfl⟩
      b := fun t _ => ⟨t, Nat.le_refl t, rfl⟩
      ar := fun t _ => ⟨t, Nat.le_refl t, rfl⟩
      r := fun t _ => ⟨t, Nat.le_refl t, rfl⟩ }

end AxiAlu.EncodedBridge
