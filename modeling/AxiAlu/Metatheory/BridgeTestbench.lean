import AxiAlu.Testbench.Bridge

/-!
The testbench of the bridge finds no error, whatever its random numbers are and however
long it holds a handshake back. A stall changes nothing but where the simulation stands
in the cycle, so a task is a sequence of steps between literal states.
-/
namespace AxiAlu.TbAvalonAxi4LiteBridge
open Clocked Testbench

structure Residue where
  addrQ : BitVec 6
  writedataQ : BitVec 32
  byteenableQ : BitVec 4
  readdata : BitVec 32
  address : BitVec 6
  writedata : BitVec 32
  byteenable : BitVec 4
  rdata : BitVec 32
  errors : Nat
  display : List String

def Residue.checked (r : Residue) (name : String) : Residue :=
  { r with display := r.display ++ ["PASS: " ++ name] }

/-- The block is in a given state and the testbench drives no command, ready signal or
response. -/
def holds (m : Moment Pins) (state : BridgeState) (awDone wDone : Bool) (r : Residue) : Sim :=
  { dut :=
      { stateQ := state, addrQ := r.addrQ, writedataQ := r.writedataQ
        byteenableQ := r.byteenableQ, awDoneQ := awDone, wDoneQ := wDone
        avsReaddata := r.readdata, avsReaddatavalid := false }
    pins :=
      { resetN := true
        port :=
          { avs :=
              { avsAddress := r.address, avsRead := false, avsWrite := false
                avsWritedata := r.writedata, avsByteenable := r.byteenable }
            mAxiAwready := false, mAxiWready := false, mAxiBresp := 0b00, mAxiBvalid := false
            mAxiArready := false, mAxiRdata := r.rdata, mAxiRresp := 0b00
            mAxiRvalid := false } }
    moment := m
    errors := r.errors
    display := r.display }

def idle (r : Residue) : Sim := holds .low .idle false false r

def AtEdge (m : Moment Pins) : Prop := m = .low ∨ m = .rising none

/-- Nothing happens unless the testbench acts. -/
def Stable (state : BridgeState) (awDone wDone : Bool) : Prop :=
  (state == .write && awDone && wDone) = false

section Stalls
variable {m : Moment Pins} (state : BridgeState) (awDone wDone : Bool) (r : Residue)
  (stable : Stable state awDone wDone)
include stable

theorem posedge_holds (edge : AtEdge m) :
    (holds m state awDone wDone r).posedge step = holds (.rising none) state awDone wDone r := by
  rcases edge with rfl | rfl <;> cases state <;> cases awDone <;> cases wDone <;>
    first | rfl | cases stable

theorem negedge_holds (edge : AtEdge m) :
    (holds m state awDone wDone r).negedge step = holds .low state awDone wDone r := by
  rcases edge with rfl | rfl <;> cases state <;> cases awDone <;> cases wDone <;>
    first | rfl | cases stable

/-- A stall of any length, and a check that passes. -/
theorem stallCheck_holds (n : Nat) (edge : AtEdge m) (name : String)
    {ok : AvalonAxi4LiteBridge 6 32 → Bool}
    (passes : ok (holds m state awDone wDone r).dut = true) :
    ∃ m', AtEdge m' ∧
      stallCheck n name ok (holds m state awDone wDone r) =
        holds m' state awDone wDone (r.checked name) := by
  induction n generalizing m with
  | zero =>
      have passed : ok (dut (holds m state awDone wDone r)) = true := passes
      exact ⟨m, edge, by rw [stallCheck, Bench.posedges, passed]; rfl⟩
  | succ n ih =>
      obtain ⟨m', edge', stalled⟩ := ih (m := .rising none) (.inr rfl) passes
      refine ⟨m', edge', ?_⟩
      rw [stallCheck, Bench.posedges, posedge_holds state awDone wDone r stable edge]
      exact stalled

theorem stall_forOneCycle (n : Nat) (name : String) {ok : AvalonAxi4LiteBridge 6 32 → Bool}
    (passes : ok (holds .low state awDone wDone r).dut = true) (up down : Assignment) :
    forOneCycle up down (stallCheck n name ok (holds .low state awDone wDone r)) =
      forOneCycle up down (holds .low state awDone wDone (r.checked name)) := by
  obtain ⟨m, edge, stalled⟩ :=
    stallCheck_holds state awDone wDone r stable n (m := .low) (.inl rfl) name passes
  rw [stalled, forOneCycle, forOneCycle, negedge_holds state awDone wDone _ stable edge,
    negedge_holds state awDone wDone _ stable (.inl rfl)]

end Stalls

theorem stall_idle (n : Nat) (name : String) {ok : AvalonAxi4LiteBridge 6 32 → Bool} (r : Residue)
    (passes : ok (idle r).dut = true) :
    (stallCheck n name ok (idle r)).negedge step = idle (r.checked name) := by
  obtain ⟨m, edge, stalled⟩ :=
    stallCheck_holds .idle false false r rfl n (m := .low) (.inl rfl) name passes
  rw [idle, stalled, negedge_holds .idle false false _ rfl edge]
  rfl

/-- A task that starts between two commands ends so, and no check of it fails. -/
def Passes (task : Sim → Sim) : Prop :=
  ∀ b r, b.negedge step = idle r → ∃ r', (task b).negedge step = idle r' ∧ r'.errors = r.errors

/-- A simulation between two commands in which no check has failed. -/
def Ready (b : Sim) : Prop := ∃ r, b.negedge step = idle r ∧ r.errors = 0

theorem Ready.errors {b : Sim} (ready : Ready b) : b.errors = 0 := by
  obtain ⟨r, fallen, errors⟩ := ready
  have kept : (b.negedge step).errors = r.errors := congrArg Bench.errors fallen
  exact kept.trans errors

theorem Passes.run {task : Sim → Sim} (passes : Passes task) {b : Sim} (ready : Ready b) :
    Ready (task b) := by
  obtain ⟨r, fallen, errors⟩ := ready
  obtain ⟨r', fallen', kept⟩ := passes b r fallen
  exact ⟨r', fallen', kept.trans errors⟩

section Tasks
variable (addr : BitVec 6) (data : BitVec 32) (be : BitVec 4) (name : String)

def Residue.writing (r : Residue) (addr : BitVec 6) (data : BitVec 32) (be : BitVec 4) : Residue :=
  { r with
    addrQ := addr, writedataQ := data, byteenableQ := be
    address := addr, writedata := data, byteenable := be }

theorem writeCommand_eq {b : Sim} {r : Residue} (ready : b.negedge step = idle r) :
    forOneCycle (setCommand addr data be) (setAvsWrite false) b =
      holds .low .write false false (r.writing addr data be) := by
  rw [forOneCycle, ready]
  rfl

theorem awHandshake_eq (r : Residue) :
    forOneCycle (setAwready true) (setAwready false) (holds .low .write false false r) =
      holds .low .write true false r := rfl

theorem wHandshake_eq (r : Residue) :
    forOneCycle (setWready true) (setWready false) (holds .low .write true false r) =
      holds .low .writeResp true true r := rfl

theorem bHandshake_eq (r : Residue) :
    forOneCycle (setBvalid true) (setBvalid false) (holds .low .writeResp true true r) =
      idle r := rfl

theorem writeCommand_checked {b : Sim} {r : Residue} (ready : b.negedge step = idle r) :
    Bench.check (forOneCycle (setCommand addr data be) (setAvsWrite false) b) name
        ((dut (forOneCycle (setCommand addr data be) (setAvsWrite false) b)).avsWaitrequest ==
          true) =
      holds .low .write false false ((r.writing addr data be).checked name) := by
  rw [writeCommand_eq addr data be ready]
  rfl

theorem avalonWrite_passes (awDelay wDelay bDelay : Nat) :
    Passes (avalonWrite addr data be awDelay wDelay bDelay name) := by
  intro b r ready
  have awStable (r' : Residue) (kept : r'.addrQ = addr) :
      (decide ((holds .low .write false false r').dut.mAxiAwaddr = addr) && true) = true := by
    rw [Bool.and_true, decide_eq_true_iff]
    exact kept
  have wStable (r' : Residue) (kept : r'.writedataQ = data ∧ r'.byteenableQ = be) :
      (decide ((holds .low .write true false r').dut.mAxiWdata = data) &&
        decide ((holds .low .write true false r').dut.mAxiWstrb = be) && true) = true := by
    rw [Bool.and_true, Bool.and_eq_true_iff, decide_eq_true_iff, decide_eq_true_iff]
    exact kept
  dsimp only [avalonWrite]
  rw [writeCommand_checked addr data be _ ready,
    stall_forOneCycle .write false false _ rfl awDelay _ (awStable _ rfl), awHandshake_eq,
    stall_forOneCycle .write true false _ rfl wDelay _ (wStable _ ⟨rfl, rfl⟩), wHandshake_eq,
    stall_forOneCycle .writeResp true true _ rfl bDelay _ rfl, bHandshake_eq,
    stall_idle 1 _ _ rfl]
  exact ⟨_, rfl, rfl⟩

theorem wHandshakeFirst_eq (r : Residue) :
    drive (setWready false)
        (((drive (setWready true) (holds .low .write false false r)).posedge step).negedge step) =
      holds .low .write false true r := rfl

/-- On whichever side of the rising edge AWREADY comes, the address is taken by the next
falling edge but one. -/
theorem awHandshakeAtEdge_eq (blockFirst : Bool) (r : Residue) :
    drive (fun i => setBvalid true (setAwready false i))
        ((((holds (.rising none) .write false true r).driveAtEdge blockFirst
          fun p => { p with port := setAwready true p.port }).posedge step).negedge step) =
      drive (setBvalid true) (holds .low .writeResp true true r) := by
  cases blockFirst <;> rfl

theorem avalonWriteWFirst_passes (blockFirst : Bool) :
    Passes (avalonWriteWFirst blockFirst addr data be) := by
  intro b r ready
  have command : forOneCycle (setCommand addr data be)
      (fun i => setWready true (setAvsWrite false i)) b =
        drive (setWready true) (holds .low .write false false (r.writing addr data be)) := by
    rw [forOneCycle, ready]
    rfl
  let r' := (r.writing addr data be).checked "W before AW keeps AWVALID"
  have stalled : stallCheck 2 "W before AW keeps AWVALID"
      (fun s => s.mAxiAwvalid && !s.mAxiWvalid)
        (holds .low .write false true (r.writing addr data be)) =
      holds (.rising none) .write false true r' := rfl
  refine ⟨r', ?_, rfl⟩
  dsimp only [avalonWriteWFirst]
  rw [command, wHandshakeFirst_eq, stalled, awHandshakeAtEdge_eq]
  rfl

def Residue.reading (r : Residue) (addr : BitVec 6) : Residue :=
  { r with
    addrQ := addr, writedataQ := r.writedata, byteenableQ := r.byteenable, address := addr }

theorem readCommand_eq {b : Sim} {r : Residue} (ready : b.negedge step = idle r) :
    forOneCycle (fun i => { i with avs := { i.avs with avsAddress := addr, avsRead := true } })
        (setAvsRead false) b =
      holds .low .readAddr false false (r.reading addr) := by
  rw [forOneCycle, ready]
  rfl

theorem arHandshake_eq (r : Residue) :
    forOneCycle (setArready true) (setArready false) (holds .low .readAddr false false r) =
      holds .low .readData false false r := rfl

def answered (m : Moment Pins) (r : Residue) : Sim :=
  let b := holds m .idle false false r
  { b with dut := { b.dut with avsReaddatavalid := true } }

theorem rHandshake_eq (r : Residue) :
    forOneCycle (fun i => setRvalid true { i with mAxiRdata := data }) (setRvalid false)
        (holds .low .readData false false r) =
      answered .low { r with readdata := data, rdata := data } := rfl

theorem word_shown (r : Residue) (shown : r.readdata = data) :
    stallCheck 1 name (fun s => s.avsReaddatavalid && decide (s.avsReaddata = data))
        (answered .low r) =
      answered (.rising none) (r.checked name) := by
  calc
    _ = (answered (.rising none) r).check name (true && decide (r.readdata = data)) := rfl
    _ = answered (.rising none) (r.checked name) := by
        rw [decide_eq_true shown]
        rfl

theorem word_gone (r : Residue) :
    (stallCheck 1 name (fun s => !s.avsReaddatavalid) (answered (.rising none) r)).negedge step =
      idle (r.checked name) := rfl

theorem avalonRead_passes (arDelay rDelay : Nat) :
    Passes (avalonRead addr data arDelay rDelay name) := by
  intro b r ready
  have arStable (r' : Residue) (kept : r'.addrQ = addr) :
      (true && decide ((holds .low .readAddr false false r').dut.mAxiAraddr = addr)) = true := by
    rw [Bool.true_and, decide_eq_true_iff]
    exact kept
  dsimp only [avalonRead]
  rw [readCommand_eq addr ready,
    stall_forOneCycle .readAddr false false _ rfl arDelay _ (arStable _ rfl), arHandshake_eq,
    stall_forOneCycle .readData false false _ rfl rDelay _ rfl, rHandshake_eq,
    word_shown data _ _ rfl, word_gone]
  exact ⟨_, rfl, rfl⟩

theorem bothHandshakes_eq (r : Residue) :
    drive (fun i =>
          { setBvalid true (setWready false (setAwready false i)) with mAxiBresp := 0b10 })
        (((drive (fun i => setWready true (setAwready true i))
          (holds .low .write false false r)).posedge step).negedge step) =
      drive (fun i => { setBvalid true i with mAxiBresp := 0b10 })
        (holds .low .writeResp true true r) := rfl

/-- The response is that of an error; the bridge takes it as any other. -/
theorem errorHandshake_eq (r : Residue) :
    drive (fun i => { setBvalid false i with mAxiBresp := 0b00 })
        (((drive (fun i => { setBvalid true i with mAxiBresp := 0b10 })
          (holds .low .writeResp true true r)).posedge step).negedge step) =
      idle r := rfl

theorem simultaneous_passes : Passes simultaneous := by
  intro b r ready
  have command : forOneCycle (fun i => setAvsRead true (setCommand 0x20 0x12345678 0b1111 i))
      (fun i => setAvsRead false (setAvsWrite false i)) b =
        holds .low .write false false (r.writing 0x20 0x12345678 0b1111) := by
    rw [forOneCycle, ready]
    rfl
  have chosen (r' : Residue) : Bench.check (holds .low .write false false r')
      "simultaneous read/write chooses write"
      ((dut (holds .low .write false false r')).mAxiAwvalid &&
        (dut (holds .low .write false false r')).mAxiWvalid &&
          !(dut (holds .low .write false false r')).mAxiArvalid) =
      holds .low .write false false (r'.checked "simultaneous read/write chooses write") := rfl
  refine ⟨(r.writing 0x20 0x12345678 0b1111).checked "simultaneous read/write chooses write",
    ?_, rfl⟩
  dsimp only [simultaneous]
  rw [command, chosen, bothHandshakes_eq, errorHandshake_eq]
  rfl

theorem randomTest_passes (c : Command) : Passes (randomTest c) := by
  intro b r ready
  rw [randomTest]
  split
  · exact avalonRead_passes _ _ _ _ _ b r ready
  · exact avalonWrite_passes _ _ _ _ _ _ _ b r ready

end Tasks

theorem randomIteration_ready {p : BitVec 32 × Sim} (ready : Ready p.2) :
    Ready (randomIteration p).2 := by
  have tested : (randomIteration p).2 = randomTest (randomCommand p.1).1 p.2 := rfl
  rw [tested]
  exact (randomTest_passes _).run ready

theorem randomBridgeTests_ready (iterations : Nat) (seed : BitVec 32) {b : Sim}
    (ready : Ready b) : Ready (randomBridgeTests iterations seed b) := by
  rw [randomBridgeTests]
  induction iterations with
  | zero => exact ready
  | succ iterations ih =>
      rw [Function.iterate_succ_apply']
      exact randomIteration_ready ih

section Main
variable (blockFirst : Bool) (b : Sim)

def afterReset (errors : Nat) (display : List String) : Residue :=
  { addrQ := 0, writedataQ := 0, byteenableQ := 0, readdata := 0, address := 0, writedata := 0
    byteenable := 0, rdata := 0, errors := errors, display := display }

/-- Whichever goes first when the reset is taken away, the block is in its reset state. -/
theorem resetDut_eq :
    resetDut blockFirst b =
      holds (.rising none) .idle false false (afterReset b.errors b.display) := by
  cases blockFirst <;> rfl

/-- The testbench passes, for every seed and every number of random tests, whatever the
block holds at power-up and in whichever order the simulator runs the two at either edge. -/
theorem bridge_testbench_passes (blockFirst' : Bool) (iterations : Nat) (seed : BitVec 32) :
    (main blockFirst blockFirst' iterations seed b).errors = 0 ∧
      (main blockFirst blockFirst' iterations seed b).display.getLast? =
        some "tb_avalon_axi4lite_bridge PASSED" := by
  have reset : Ready (Bench.check (resetDut blockFirst { b with errors := 0 }) "reset outputs"
      (!(dut (resetDut blockFirst { b with errors := 0 })).avsWaitrequest &&
        !(dut (resetDut blockFirst { b with errors := 0 })).avsReaddatavalid &&
        !(dut (resetDut blockFirst { b with errors := 0 })).mAxiAwvalid &&
        !(dut (resetDut blockFirst { b with errors := 0 })).mAxiWvalid &&
        !(dut (resetDut blockFirst { b with errors := 0 })).mAxiArvalid)) := by
    rw [resetDut_eq]
    exact ⟨(afterReset 0 b.display).checked "reset outputs", rfl, rfl⟩
  have write := (avalonWrite_passes 0x08 0xAAAA5555 0b1111 "write AW/W same cycle" 0 0 2).run reset
  have awFirst := (avalonWrite_passes 0x0C 0x11112222 0b0011 "write AW before W" 0 3 1).run write
  have wFirst := (avalonWriteWFirst_passes 0x10 0x00000002 0b1111 blockFirst').run awFirst
  have read := (avalonRead_passes 0x14 0xDEADBEEF "read with delays" 2 3).run wFirst
  have random := randomBridgeTests_ready iterations seed (simultaneous_passes.run read)
  rw [main]
  exact ⟨random.errors, Bench.finish_passed _ random.errors⟩

end Main

end AxiAlu.TbAvalonAxi4LiteBridge
