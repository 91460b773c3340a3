import AxiAlu.Rtl.AvalonAxi4LiteBridge

/-!
What one clock edge does to the bridge, one equation for each state. Between them
they say everything the bridge can do; a command is taken in the idle state only,
and in every other state the Avalon inputs do not occur on the right.
-/
namespace AxiAlu.AvalonAxi4LiteBridge
variable {addrWidth dataWidth : Nat}

def awFire (s : AvalonAxi4LiteBridge addrWidth dataWidth) (i : Input addrWidth dataWidth) :
    Bool := s.mAxiAwvalid && i.mAxiAwready
def wFire (s : AvalonAxi4LiteBridge addrWidth dataWidth) (i : Input addrWidth dataWidth) :
    Bool := s.mAxiWvalid && i.mAxiWready
def bFire (s : AvalonAxi4LiteBridge addrWidth dataWidth) (i : Input addrWidth dataWidth) :
    Bool := i.mAxiBvalid && s.mAxiBready
def arFire (s : AvalonAxi4LiteBridge addrWidth dataWidth) (i : Input addrWidth dataWidth) :
    Bool := s.mAxiArvalid && i.mAxiArready
def rFire (s : AvalonAxi4LiteBridge addrWidth dataWidth) (i : Input addrWidth dataWidth) :
    Bool := i.mAxiRvalid && s.mAxiRready

section Steps
variable {s : AvalonAxi4LiteBridge addrWidth dataWidth} (i : Input addrWidth dataWidth)

theorem step_idle_quiet (h : s.stateQ = .idle)
    (noWrite : i.avs.avsWrite = false) (noRead : i.avs.avsRead = false) :
    s.step i = { s with avsReaddatavalid := false } := by
  simp [step, stateD, h, noWrite, noRead]

theorem step_idle_write (h : s.stateQ = .idle) (write : i.avs.avsWrite = true) :
    s.step i =
      { s with
        stateQ := .write
        addrQ := i.avs.avsAddress
        writedataQ := i.avs.avsWritedata
        byteenableQ := i.avs.avsByteenable
        awDoneQ := false
        wDoneQ := false
        avsReaddatavalid := false } := by
  simp [step, stateD, avsWaitrequest, h, write]

theorem step_idle_read (h : s.stateQ = .idle)
    (noWrite : i.avs.avsWrite = false) (read : i.avs.avsRead = true) :
    s.step i =
      { s with
        stateQ := .readAddr
        addrQ := i.avs.avsAddress
        writedataQ := i.avs.avsWritedata
        byteenableQ := i.avs.avsByteenable
        awDoneQ := false
        wDoneQ := false
        avsReaddatavalid := false } := by
  simp [step, stateD, avsWaitrequest, h, noWrite, read]

theorem step_write (h : s.stateQ = .write) :
    s.step i =
      { s with
        stateQ :=
          if (s.awDoneQ || i.mAxiAwready) && (s.wDoneQ || i.mAxiWready) then .writeResp
          else .write
        awDoneQ := s.awDoneQ || i.mAxiAwready
        wDoneQ := s.wDoneQ || i.mAxiWready
        avsReaddatavalid := false } := by
  cases ha : i.mAxiAwready <;> cases hw : i.mAxiWready <;>
    simp [step, stateD, h, ha, hw]

theorem step_writeResp (h : s.stateQ = .writeResp) :
    s.step i =
      if i.mAxiBvalid then
        { s with stateQ := .idle, awDoneQ := false, wDoneQ := false, avsReaddatavalid := false }
      else { s with avsReaddatavalid := false } := by
  cases hb : i.mAxiBvalid <;> simp [step, stateD, h, hb]

theorem step_readAddr (h : s.stateQ = .readAddr) :
    s.step i =
      { s with
        stateQ := if i.mAxiArready then .readData else .readAddr
        avsReaddatavalid := false } := by
  cases ha : i.mAxiArready <;> simp [step, stateD, h, ha]

theorem step_readData (h : s.stateQ = .readData) :
    s.step i =
      if i.mAxiRvalid then
        { s with stateQ := .idle, avsReaddata := i.mAxiRdata, avsReaddatavalid := true }
      else { s with avsReaddatavalid := false } := by
  cases hr : i.mAxiRvalid <;> simp [step, stateD, h, hr]

/-- Outside the idle state the Avalon inputs have no effect. -/
theorem step_ignores_avalon (h : s.avsWaitrequest = true) (avs : Avalon addrWidth dataWidth) :
    s.step { i with avs := avs } = s.step i := by
  cases hs : s.stateQ with
  | idle => simp [avsWaitrequest, hs] at h
  | write => rw [step_write _ hs, step_write _ hs]
  | writeResp => rw [step_writeResp _ hs, step_writeResp _ hs]
  | readAddr => rw [step_readAddr _ hs, step_readAddr _ hs]
  | readData => rw [step_readData _ hs, step_readData _ hs]

/-- A response pulse follows an R handshake and nothing else. -/
theorem step_avsReaddatavalid : (s.step i).avsReaddatavalid = s.rFire i := by
  cases hr : i.mAxiRvalid <;> cases hs : s.stateQ <;>
    simp [step, rFire, mAxiRready, hr, hs, apply_ite avsReaddatavalid]

theorem step_avsReaddata (h : s.rFire i = true) : (s.step i).avsReaddata = i.mAxiRdata := by
  simp only [rFire, mAxiRready, Bool.and_eq_true, beq_iff_eq] at h
  rw [step_readData i h.2, if_pos h.1]

end Steps

end AxiAlu.AvalonAxi4LiteBridge
