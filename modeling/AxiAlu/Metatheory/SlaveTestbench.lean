import AxiAlu.Testbench.Slave

/-!
The testbench of the slave finds no error, whatever its random numbers are. Whenever it
waits for a falling edge between two handshakes, only four flags of the block are of
interest; the tasks are followed from one such state to the next. The two processes of
a random write advance independently, one stage in a cycle.
-/
namespace AxiAlu.TbAxi4LiteSlave
open Clocked Testbench

structure Residue where
  wrAddr : BitVec 6
  wrData : BitVec 32
  wrStrb : BitVec 4
  awaddrQ : BitVec 6
  araddrQ : BitVec 6
  wdataQ : BitVec 32
  wstrbQ : BitVec 4
  rdataQ : BitVec 32
  awaddr : BitVec 6
  wdata : BitVec 32
  wstrb : BitVec 4
  araddr : BitVec 6
  rdData : BitVec 32
  errors : Nat
  display : List String

def Residue.checked (r : Residue) (name : String) : Residue :=
  { r with display := r.display ++ ["PASS: " ++ name] }

/-- Nothing is offered or acknowledged by the testbench; the block holds what the flags
say, has presented its last write and has no address to look up. -/
def between (m : Moment Pins) (awV wV bvalid rvalid : Bool) (r : Residue) : Sim :=
  { dut :=
      { awV := awV, wV := wV, bvalidQ := bvalid, rvalidQ := rvalid, readPending := false
        wrEn := false, wrAddr := r.wrAddr, wrData := r.wrData, wrStrb := r.wrStrb
        awaddrQ := r.awaddrQ, araddrQ := r.araddrQ, wdataQ := r.wdataQ, wstrbQ := r.wstrbQ
        rdataQ := r.rdataQ }
    pins :=
      { aresetn := true
        port :=
          { sAxiAwaddr := r.awaddr, sAxiAwvalid := false, sAxiWdata := r.wdata
            sAxiWstrb := r.wstrb, sAxiWvalid := false, sAxiBready := false
            sAxiAraddr := r.araddr, sAxiArvalid := false, sAxiRready := false
            rdData := r.rdData } }
    moment := m
    errors := r.errors
    display := r.display }

def idle (r : Residue) : Sim := between .low false false false false r

section Tasks
variable (r : Residue)

theorem check_between (m : Moment Pins) (awV wV bvalid rvalid : Bool) (name : String) {ok : Bool}
    (passed : ok = true) :
    (between m awV wV bvalid rvalid r).check name ok =
      between m awV wV bvalid rvalid (r.checked name) := by
  rw [passed]; rfl

def presented (r : Residue) : Sim :=
  let b := between .high false false true false
    { r with wrAddr := r.awaddrQ, wrData := r.wdataQ, wrStrb := r.wstrbQ }
  { b with dut := { b.dut with wrEn := true } }

theorem checkPulse_eq (name : String) :
    (presented r).check name
        (decide ((presented r).dut.wrAddr = r.awaddrQ) &&
          decide ((presented r).dut.wrData = r.wdataQ) &&
          decide ((presented r).dut.wrStrb = r.wstrbQ)) =
      presented (r.checked name) := by
  have passed : (decide ((presented r).dut.wrAddr = r.awaddrQ) &&
      decide ((presented r).dut.wrData = r.wdataQ) &&
      decide ((presented r).dut.wrStrb = r.wstrbQ)) = true := by
    simp [presented, between]
  rw [passed]
  rfl

def Residue.written (r : Residue) (name : String) : Residue :=
  ({ r with wrAddr := r.awaddrQ, wrData := r.wdataQ, wrStrb := r.wstrbQ }.checked
    (name ++ " wr_en")).checked (name ++ " wr_en one cycle")

/-- The pulse comes at the next edge and is over at the one after it. -/
theorem waitWritePulse_eq (fuel : Nat) (name : String) :
    waitWritePulse (fuel + 1) r.awaddrQ r.wdataQ r.wstrbQ name
        (between .low true true false false r) =
      some (between .high false false true false (r.written name)) := by
  let after (b : Sim) : Sim :=
    ((b.posedge step).pause step).check (name ++ " wr_en one cycle")
      ((dut ((b.posedge step).pause step)).wrEn == false)
  calc
    waitWritePulse (fuel + 1) r.awaddrQ r.wdataQ r.wstrbQ name
        (between .low true true false false r)
      = some (after ((presented r).check (name ++ " wr_en")
          (decide ((presented r).dut.wrAddr = r.awaddrQ) &&
            decide ((presented r).dut.wrData = r.wdataQ) &&
            decide ((presented r).dut.wrStrb = r.wstrbQ)))) := rfl
    _ = some (between .high false false true false (r.written name)) := by
      rw [checkPulse_eq]
      rfl

theorem acknowledge_eq (m : Moment Pins) (settled : m = .high ∨ m = .rising none) :
    acknowledge ((between m false false true false r).negedge step) = idle r := by
  rcases settled with rfl | rfl <;> rfl

theorem negedge_idle : (idle r).negedge step = idle r := rfl

def Residue.holding (r : Residue) (addr : BitVec 6) (data : BitVec 32) (strb : BitVec 4) :
    Residue :=
  { r with
    awaddr := addr, awaddrQ := addr, wdata := data, wdataQ := data, wstrb := strb, wstrbQ := strb }

theorem waitWritePulse_holding (fuel : Nat) (addr : BitVec 6) (data : BitVec 32)
    (strb : BitVec 4) (name : String) :
    waitWritePulse (fuel + 1) addr data strb name
        (between .low true true false false (r.holding addr data strb)) =
      some (between .high false false true false ((r.holding addr data strb).written name)) :=
  waitWritePulse_eq (r.holding addr data strb) fuel name

theorem takeBoth (addr : BitVec 6) (data : BitVec 32) (strb : BitVec 4) :
    dropW (dropAw (tick (offerW data strb (offerAw addr (idle r))))) =
      between .low true true false false (r.holding addr data strb) := rfl

end Tasks

/-- What a task does from one idle state to the next. -/
def Passes (task : Sim → Option Sim) : Prop :=
  ∀ r, ∃ r', task (idle r) = some (idle r') ∧ r'.errors = r.errors

section Directed
variable (fuel : Nat) (addr : BitVec 6) (data : BitVec 32) (strb : BitVec 4)

theorem axiWriteSameCycle_passes : Passes (axiWriteSameCycle (fuel + 1) addr data strb) := by
  intro r
  refine ⟨(r.holding addr data strb).written "AW and W same cycle", ?_, rfl⟩
  rw [axiWriteSameCycle, negedge_idle, takeBoth, waitWritePulse_holding]
  rfl

theorem axiWriteWFirst_passes : Passes (axiWriteWFirst (fuel + 1) addr data strb) := by
  intro r
  refine ⟨(r.holding addr data strb).written "W before AW", ?_, rfl⟩
  have held : dropAw (tick (offerAw addr (dropW (tick (offerW data strb (idle r)))))) =
      between .low true true false false (r.holding addr data strb) := rfl
  rw [axiWriteWFirst, negedge_idle, held, waitWritePulse_holding]
  rfl

theorem axiWriteAwFirst_passes : Passes (axiWriteAwFirst (fuel + 1) addr data strb) := by
  intro r
  have held : dropW (tick (offerW data strb (dropAw (tick (offerAw addr (idle r)))))) =
      between .low true true false false (r.holding addr data strb) := rfl
  refine ⟨((((r.holding addr data strb).written "AW before W").checked
    "BVALID held before BREADY").checked "BVALID still held").checked "BRESP OKAY", ?_, rfl⟩
  rw [axiWriteAwFirst, negedge_idle, held, waitWritePulse_holding]
  rfl

end Directed

section Reads
variable (r : Residue) (fuel : Nat) (addr : BitVec 6) (data : BitVec 32)

def Residue.answered (r : Residue) (addr : BitVec 6) (data : BitVec 32) : Residue :=
  { r with araddr := addr, araddrQ := addr, rdData := data, rdataQ := data }

theorem requestRead_eq {b : Sim} (ready : b.negedge step = idle r) :
    requestRead (fuel + 2) addr data b =
      some (between .high false false false true (r.answered addr data)) := by
  rw [requestRead, ready]
  rfl

theorem takeWord_eq (m : Moment Pins) (settled : m = .high ∨ m = .rising none) :
    takeWord (between m false false false true r) = idle r := by
  rcases settled with rfl | rfl <;> rfl

theorem answer_checked (name name' : String) :
    ((between .high false false false true (r.answered addr data)).check name
        (decide (addr = addr))).check name' (decide (data = data) && decide (0b00#2 = 0b00#2)) =
      between .high false false false true
        (((r.answered addr data).checked name).checked name') := by
  rw [decide_eq_true rfl, decide_eq_true rfl, decide_eq_true rfl]
  rfl

theorem axiRead_passes (name : String) : Passes (axiRead (fuel + 2) addr data name) := by
  intro r
  let held (b : Sim) : Sim := b.check (name ++ " RVALID held") ((dut b).sAxiRvalid == true)
  let stalled (b : Sim) : Sim :=
    (b.posedges step 2).check (name ++ " RVALID held during stall")
      ((dut (b.posedges step 2)).sAxiRvalid == true)
  refine ⟨((((r.answered addr data).checked (name ++ " address")).checked
    (name ++ " data/resp")).checked (name ++ " RVALID held")).checked
      (name ++ " RVALID held during stall"), ?_, rfl⟩
  calc
    axiRead (fuel + 2) addr data name (idle r)
      = some (takeWord (stalled (held
          (((between .high false false false true (r.answered addr data)).check
            (name ++ " address") (decide (addr = addr))).check (name ++ " data/resp")
              (decide (data = data) && decide (0b00#2 = 0b00#2)))))) := by
        rw [axiRead, requestRead_eq r fuel addr data (negedge_idle r)]
        rfl
    _ = some (idle _) := by
        rw [answer_checked]
        rfl

theorem negedge_posedges (n : Nat) (m : Moment Pins) (settled : m = .low ∨ m = .rising none) :
    (Bench.posedges step n (between m false false false false r)).negedge step = idle r := by
  induction n generalizing m with
  | zero => rcases settled with rfl | rfl <;> rfl
  | succ n ih =>
      have next : (between m false false false false r).posedge step =
          between (.rising none) false false false false r := by
        rcases settled with rfl | rfl <;> rfl
      rw [Bench.posedges, next]
      exact ih _ (.inr rfl)

end Reads

/-- While nobody acknowledges it a response stays, and so does the outcome of a check
that only looks at the response. -/
theorem checksAtEdges_eq (bvalid rvalid : Bool) (name : String) (ok : Sim → Bool) (n : Nat)
    {m : Moment Pins} {r : Residue} (settled : m = .high ∨ m = .rising none)
    (passes : ∀ r', r'.rdataQ = r.rdataQ →
      ok (between (.rising none) false false bvalid rvalid r') = true) :
    ∃ m' r', (m' = .high ∨ m' = .rising none) ∧ r'.errors = r.errors ∧
      checksAtEdges name ok n (between m false false bvalid rvalid r) =
        between m' false false bvalid rvalid r' := by
  induction n generalizing m r with
  | zero => exact ⟨m, r, settled, rfl, rfl⟩
  | succ n ih =>
      have next : (between m false false bvalid rvalid r).posedge step =
          between (.rising none) false false bvalid rvalid r := by
        rcases settled with rfl | rfl <;> cases bvalid <;> cases rvalid <;> rfl
      rw [checksAtEdges, next, check_between _ _ _ _ _ _ _ (passes r rfl)]
      exact ih (r := r.checked name) (.inr rfl) passes

/-- How far a process of a random write has come, at a falling edge. -/
inductive Stage
  | waits (edges : Nat)
  | offers
  | done

namespace Stage

/-- A delay of one edge is no delay: the falling edge after it is the next one anyway. -/
def next : Stage → Stage
  | waits (n + 2) => waits (n + 1)
  | waits _ => offers
  | offers | done => done

def left : Stage → Nat
  | waits n => max n 1 + 1
  | offers => 1
  | done => 0

def isOffers : Stage → Bool
  | offers => true
  | _ => false

def isDone : Stage → Bool
  | done => true
  | _ => false

theorem next_left {s : Stage} {n : Nat} (bound : s.left ≤ n + 1) : s.next.left ≤ n := by
  rcases s with (_ | _ | k) | _ | _ <;> simp_all [next, left]

/-- A process waits for so many cycles, and then it offers. -/
theorem next_waits {delay k : Nat} (early : k < max delay 1) :
    next^[k] (.waits delay) = .waits (delay - k) := by
  induction k with
  | zero => rfl
  | succ k ih =>
      obtain ⟨m, left⟩ : ∃ m, delay - k = m + 2 := ⟨delay - k - 2, by omega⟩
      rw [Function.iterate_succ_apply', ih (by omega), left, show delay - (k + 1) = m + 1 by omega]
      rfl

theorem next_offers (delay : Nat) : next^[max delay 1] (.waits delay) = .offers := by
  obtain ⟨k, last⟩ : ∃ k, max delay 1 = k + 1 := ⟨max delay 1 - 1, by omega⟩
  rw [last, Function.iterate_succ_apply', next_waits (by omega)]
  obtain left | left : delay - k = 0 ∨ delay - k = 1 := by omega
  · rw [left]; rfl
  · rw [left]; rfl

end Stage

section Fork
variable (addr : BitVec 6) (data : BitVec 32) (strb : BitVec 4)

def Stage.aw : Stage → Thread (Axi4LiteSlave 6 32) Pins
  | .waits n => awThread addr n
  | .offers =>
      .posedge (fun s => s.sAxiAwready)
        (.negedge (fun p => { p with port := { p.port with sAxiAwvalid := false } }) .finished)
  | .done => .finished

def Stage.w : Stage → Thread (Axi4LiteSlave 6 32) Pins
  | .waits n => wThread data strb n
  | .offers =>
      .posedge (fun s => s.sAxiWready)
        (.negedge (fun p => { p with port := { p.port with sAxiWvalid := false } }) .finished)
  | .done => .finished

/-- The two processes at given stages, and the simulation then. -/
def forked (x y : Stage) (r : Residue) : Fork (Axi4LiteSlave 6 32) Pins :=
  let b := between .low x.isDone y.isDone false false
    { r with
      awaddr := if x.isOffers || x.isDone then addr else r.awaddr
      awaddrQ := if x.isDone then addr else r.awaddrQ
      wdata := if y.isOffers || y.isDone then data else r.wdata
      wdataQ := if y.isDone then data else r.wdataQ
      wstrb := if y.isOffers || y.isDone then strb else r.wstrb
      wstrbQ := if y.isDone then strb else r.wstrbQ }
  { first := x.aw addr
    second := y.w data strb
    bench :=
      { b with
        pins :=
          { b.pins with
            port := { b.pins.port with sAxiAwvalid := x.isOffers, sAxiWvalid := y.isOffers } } } }

/-- One cycle brings each process to its next stage. -/
theorem edges_forked (x y : Stage) (r : Residue) (unfinished : (x.isDone && y.isDone) = false) :
    ((forked addr data strb x y r).edge step dut).edge step dut =
      forked addr data strb x.next y.next r := by
  rcases x with (_ | _ | k) | _ | _ <;> rcases y with (_ | _ | l) | _ | _ <;>
    first | rfl | cases unfinished

theorem edges_iterate (k : Nat) (x y : Stage) (r : Residue)
    (unfinished : ∀ j, j < k → ((Stage.next^[j] x).isDone && (Stage.next^[j] y).isDone) = false) :
    (Fork.edge step dut)^[2 * k] (forked addr data strb x y r) =
      forked addr data strb (Stage.next^[k] x) (Stage.next^[k] y) r := by
  induction k with
  | zero => rfl
  | succ k ih =>
      rw [show 2 * (k + 1) = 2 * k + 1 + 1 by omega, Function.iterate_succ_apply',
        Function.iterate_succ_apply', ih fun j hj => unfinished j (by omega),
        edges_forked _ _ _ _ _ _ (unfinished k (by omega)), Function.iterate_succ_apply' Stage.next,
        Function.iterate_succ_apply' Stage.next]

theorem join_cycle (x y : Stage) (r : Residue) (fuel : Nat)
    (unfinished : (x.isDone && y.isDone) = false) :
    (forked addr data strb x y r).join step dut (fuel + 2) =
      (forked addr data strb x.next y.next r).join step dut fuel := by
  rw [← edges_forked addr data strb x y r unfinished]
  rcases x with (_ | _ | k) | _ | _ <;> rcases y with (_ | _ | l) | _ | _ <;>
    first | rfl | cases unfinished

/-- Both processes come to their end, and then the pair is held. -/
theorem join_forked (n fuel : Nat) (x y : Stage) (r : Residue)
    (bound : x.left ≤ n ∧ y.left ≤ n) :
    (forked addr data strb x y r).join step dut (2 * n + fuel + 1) =
      some (between .low true true false false (r.holding addr data strb)) := by
  induction n generalizing x y with
  | zero =>
      rcases x with _ | _ | _ <;> rcases y with _ | _ | _ <;>
        first | rfl | simp [Stage.left] at bound
  | succ n ih =>
      cases ends : x.isDone && y.isDone with
      | false =>
          rw [show 2 * (n + 1) + fuel + 1 = (2 * n + fuel + 1) + 2 by omega,
            join_cycle addr data strb x y r _ ends]
          exact ih _ _ ⟨Stage.next_left bound.1, Stage.next_left bound.2⟩
      | true => rcases x with _ | _ | _ <;> rcases y with _ | _ | _ <;> first | rfl | cases ends

end Fork

section Random
variable (fuel : Nat) (t : Transaction)

theorem axiReadRandom_passes : Passes (axiReadRandom (fuel + 2) t) := by
  intro r
  have holds : ∀ r', r'.rdataQ = t.data →
      rHeld t.data (between (.rising none) false false false true r') = true := by
    intro r' kept
    have word : (dut (between (.rising none) false false false true r')).sAxiRdata = t.data := kept
    rw [rHeld, word, decide_eq_true rfl]
    rfl
  obtain ⟨m, r', settled, errors, held⟩ := checksAtEdges_eq false true
    "random RVALID held during stall" (rHeld t.data) t.respDelay (m := .high)
    (r := ((r.answered t.addr t.data).checked "random read address").checked
      "random read data/resp") (.inl rfl) holds
  have ready : (Bench.posedges step t.awDelay (idle r)).negedge step = idle r :=
    negedge_posedges r t.awDelay .low (.inl rfl)
  refine ⟨r', ?_, errors⟩
  calc
    axiReadRandom (fuel + 2) t (idle r)
      = some (takeWord (checksAtEdges "random RVALID held during stall" (rHeld t.data) t.respDelay
          (((between .high false false false true (r.answered t.addr t.data)).check
            "random read address" (decide (t.addr = t.addr))).check "random read data/resp"
              (decide (t.data = t.data) && decide (0b00#2 = 0b00#2))))) := by
        rw [axiReadRandom, requestRead_eq r fuel t.addr t.data ready]
        rfl
    _ = some (idle r') := by
        rw [answer_checked, held, takeWord_eq r' m settled]

theorem axiWriteRandomJoined_holding (r : Residue) :
    ∃ r', axiWriteRandomJoined (fuel + 1) t
        (between .low true true false false (r.holding t.addr t.data t.strb)) =
      some (idle r') ∧ r'.errors = r.errors := by
  obtain ⟨m, r', settled, errors, held⟩ := checksAtEdges_eq true false
    "random BVALID held during stall" bHeld t.respDelay (m := .high)
    (r := ((r.holding t.addr t.data t.strb).written "random AXI write").checked
      "random BVALID asserted") (.inl rfl) (fun r' kept => rfl)
  refine ⟨r', ?_, errors⟩
  rw [axiWriteRandomJoined, waitWritePulse_holding]
  calc
    _ = some (acknowledge ((checksAtEdges "random BVALID held during stall" bHeld t.respDelay
          (between .high false false true false
            (((r.holding t.addr t.data t.strb).written "random AXI write").checked
              "random BVALID asserted"))).negedge step)) := rfl
    _ = some (idle r') := by
        rw [held, acknowledge_eq r' m settled]

/-- Each process takes at most four cycles. -/
theorem join_writeFork (aw : t.awDelay < 4) (w : t.wDelay < 4) (r : Residue) :
    (writeFork t (idle r)).join step dut (fuel + 9) =
      some (between .low true true false false (r.holding t.addr t.data t.strb)) := by
  have bound (n : Nat) (short : n < 4) : (Stage.waits n).left ≤ 4 := by
    simp only [Stage.left]
    omega
  have := join_forked t.addr t.data t.strb 4 fuel (.waits t.awDelay) (.waits t.wDelay) r
    ⟨bound _ aw, bound _ w⟩
  rwa [show 2 * 4 + fuel + 1 = fuel + 9 by omega] at this

theorem axiWriteRandom_passes (aw : t.awDelay < 4) (w : t.wDelay < 4) :
    Passes (axiWriteRandom (fuel + 9) t) := by
  intro r
  obtain ⟨r', goes, errors⟩ := axiWriteRandomJoined_holding (fuel + 8) t r
  refine ⟨r', ?_, errors⟩
  rw [axiWriteRandom, join_writeFork fuel t aw w r]
  exact goes

theorem runTransaction_passes (aw : t.awDelay < 4) (w : t.wDelay < 4) :
    Passes (runTransaction (fuel + 9) t) := by
  intro r
  rw [runTransaction]
  cases t.isWrite with
  | true => exact axiWriteRandom_passes fuel t aw w r
  | false => exact axiReadRandom_passes (fuel + 7) t r

end Random

theorem randomTransaction_short (seed : BitVec 32) :
    (randomTransaction seed).1.awDelay < 4 ∧ (randomTransaction seed).1.wDelay < 4 :=
  ⟨Nat.mod_lt _ (by decide), Nat.mod_lt _ (by decide)⟩

section Main
variable (fuel : Nat)

theorem randomTest_eq (seed : BitVec 32) (b : Sim) :
    randomTest fuel seed b =
      (runTransaction fuel (randomTransaction seed).1 b).map
        fun b => ((randomTransaction seed).2, b) := rfl

theorem randomTest_passes (seed : BitVec 32) :
    ∀ r, ∃ r', randomTest (fuel + 9) seed (idle r) =
      some ((randomTransaction seed).2, idle r') ∧ r'.errors = r.errors := by
  intro r
  obtain ⟨aw, w⟩ := randomTransaction_short seed
  obtain ⟨r', goes, errors⟩ := runTransaction_passes fuel (randomTransaction seed).1 aw w r
  refine ⟨r', ?_, errors⟩
  rw [randomTest_eq, goes]
  rfl

theorem randomAxiTests_passes (iterations : Nat) (seed : BitVec 32) :
    Passes (randomAxiTests (fuel + 9) iterations seed) := by
  induction iterations generalizing seed with
  | zero => exact fun r => ⟨r, rfl, rfl⟩
  | succ iterations ih =>
      intro r
      obtain ⟨r', goes, errors⟩ := randomTest_passes fuel seed r
      obtain ⟨r'', rest, errors'⟩ := ih (randomTransaction seed).2 r'
      refine ⟨r'', ?_, errors'.trans errors⟩
      rw [randomAxiTests, goes]
      exact rest

def afterReset (errors : Nat) (display : List String) : Residue :=
  { wrAddr := 0, wrData := 0, wrStrb := 0, awaddrQ := 0, araddrQ := 0, wdataQ := 0, wstrbQ := 0
    rdataQ := 0, awaddr := 0, wdata := 0, wstrb := 0, araddr := 0, rdData := 0
    errors := errors, display := display }

/-- Whichever goes first when the reset is taken away, the block is in its reset state. -/
theorem resetDut_eq (blockFirst : Bool) (b : Sim) :
    resetDut blockFirst b =
      between (.rising none) false false false false (afterReset b.errors b.display) := by
  cases blockFirst <;> rfl

theorem axiWriteAwFirst_afterReset (r : Residue) (addr : BitVec 6) (data : BitVec 32)
    (strb : BitVec 4) :
    axiWriteAwFirst (fuel + 1) addr data strb (between (.rising none) false false false false r) =
      axiWriteAwFirst (fuel + 1) addr data strb (idle r) := rfl

theorem Passes.run {task : Sim → Option Sim} (passes : Passes task) {r : Residue}
    (errors : r.errors = 0) : ∃ r', task (idle r) = some (idle r') ∧ r'.errors = 0 :=
  (passes r).imp fun _ ⟨goes, kept⟩ => ⟨goes, kept.trans errors⟩

theorem main_eq (blockFirst : Bool) (iterations : Nat) (seed : BitVec 32) (b : Sim) :
    main blockFirst fuel iterations seed b =
      (directed blockFirst fuel b).bind fun b =>
        (randomAxiTests fuel iterations seed b).map fun b => b.finish "tb_axi4lite_slave" := by
  simp only [main, Option.bind_eq_bind, Option.map_eq_bind]
  rfl

theorem directed_passes (blockFirst : Bool) (b : Sim) :
    ∃ r, directed blockFirst (fuel + 9) b = some (idle r) ∧ r.errors = 0 := by
  let r := (afterReset 0 b.display).checked "reset outputs"
  obtain ⟨r₁, awFirst, errors⟩ :=
    (axiWriteAwFirst_passes (fuel + 8) 0x08 0x11112222 0b1111).run (r := r) rfl
  obtain ⟨r₂, wFirst, errors⟩ :=
    (axiWriteWFirst_passes (fuel + 8) 0x0C 0x33334444 0b0011).run errors
  obtain ⟨r₃, sameCycle, errors⟩ :=
    (axiWriteSameCycle_passes (fuel + 8) 0x10 0x00000003 0b1111).run errors
  obtain ⟨r₄, again, errors⟩ :=
    (axiWriteSameCycle_passes (fuel + 8) 0x14 0x5555AAAA 0b1111).run errors
  obtain ⟨r₅, read, errors⟩ :=
    (axiRead_passes (fuel + 7) 0x04 0xCAFEBABE "read transaction").run errors
  obtain ⟨r₆, next, errors⟩ :=
    (axiRead_passes (fuel + 7) 0x14 0x12345678 "back-to-back read").run errors
  refine ⟨r₆, ?_, errors⟩
  have reset : (let b := resetDut blockFirst { b with errors := 0 }
      b.check "reset outputs"
        (!(dut b).sAxiBvalid && !(dut b).sAxiRvalid && !(dut b).wrEn && (dut b).sAxiAwready &&
          (dut b).sAxiWready && (dut b).sAxiArready)) =
      between (.rising none) false false false false r := by
    rw [resetDut_eq]
    rfl
  rw [directed, reset, axiWriteAwFirst_afterReset, awFirst]
  simp only [wFirst, sameCycle, again, read, next, Option.bind_eq_bind, Option.bind_some]

/-- The testbench comes to its end and passes, for every seed and every number of random
tests, whatever the block holds at power-up and in whichever order the simulator runs
the two; no wait takes more than nine edges. -/
theorem slave_testbench_passes (blockFirst : Bool) (iterations : Nat) (seed : BitVec 32) (b : Sim) :
    ∃ b', main blockFirst (fuel + 9) iterations seed b = some b' ∧ b'.errors = 0 ∧
      b'.display.getLast? = some "tb_axi4lite_slave PASSED" := by
  obtain ⟨r, directed, errors⟩ := directed_passes fuel blockFirst b
  obtain ⟨r', random, errors⟩ := (randomAxiTests_passes fuel iterations seed).run errors
  refine ⟨(idle r').finish "tb_axi4lite_slave", ?_, errors, Bench.finish_passed _ errors⟩
  rw [main_eq, directed, Option.bind_some, random, Option.map_some]

end Main

end AxiAlu.TbAxi4LiteSlave
