import AxiAlu.Clocked.Bench
import AxiAlu.Rtl.Axi4LiteSlave
import AxiAlu.Testbench.Random
import Mathlib.Logic.Function.Iterate

/-!
The testbench `tb_axi4lite_slave`: its tasks, which drive the five channels and look at
the write port, its directed tests and its random tests. The loops that wait for a
signal have fuel; without a result they have waited for too long.
-/
namespace AxiAlu.TbAxi4LiteSlave
open Clocked Testbench

structure Pins where
  aresetn : Bool
  port : Axi4LiteSlave.Input 6 32

abbrev Sim := Bench (Axi4LiteSlave 6 32) Pins

def step (s : Axi4LiteSlave 6 32) (p : Pins) : Axi4LiteSlave 6 32 :=
  if p.aresetn then s.step p.port else Axi4LiteSlave.reset

/-- The block as its outputs show it; its reset is asynchronous. -/
def dut (b : Sim) : Axi4LiteSlave 6 32 :=
  if b.pins.aresetn then b.dut else Axi4LiteSlave.reset

def drive (f : Axi4LiteSlave.Input 6 32 → Axi4LiteSlave.Input 6 32) (b : Sim) : Sim :=
  b.drive fun p => { p with port := f p.port }

structure Transaction where
  addr : BitVec 6
  data : BitVec 32
  strb : BitVec 4
  awDelay : Nat
  wDelay : Nat
  respDelay : Nat
  isWrite : Bool

/-- What `random_axi_tests` draws for an iteration, with the seed that it leaves. -/
def randomTransaction (seed : BitVec 32) : Transaction × BitVec 32 :=
  let addr := rand32 seed
  let word := randomWord addr
  let awDelay := rand32 word.seed
  let wDelay := rand32 awDelay
  let respDelay := rand32 wDelay
  let kind := rand32 respDelay
  ({ addr := addr.setWidth 6
     data := word.data
     strb := word.strb
     awDelay := awDelay.toNat % 4
     wDelay := wDelay.toNat % 4
     respDelay := respDelay.toNat % 4
     isWrite := kind &&& 1 = 0 }, kind)

def resetDut (blockFirst : Bool) (b : Sim) : Sim :=
  let b := b.drive fun _ =>
    { aresetn := false
      port :=
        { sAxiAwaddr := 0, sAxiAwvalid := false, sAxiWdata := 0, sAxiWstrb := 0
          sAxiWvalid := false, sAxiBready := false, sAxiAraddr := 0, sAxiArvalid := false
          sAxiRready := false, rdData := 0 } }
  let b := b.posedges step 3
  let b := b.driveAtEdge blockFirst fun p => { p with aresetn := true }
  b.posedge step

/-- `do begin @(posedge aclk); #1; end while (!wr_en);` -/
def untilWrEn : Nat → Sim → Option Sim
  | 0, _ => none
  | fuel + 1, b =>
      let b := (b.posedge step).pause step
      if (dut b).wrEn then some b else untilWrEn fuel b

def waitWritePulse (fuel : Nat) (expAddr : BitVec 6) (expData : BitVec 32) (expStrb : BitVec 4)
    (name : String) (b : Sim) : Option Sim := do
  let b ← untilWrEn fuel b
  let b := b.pause step
  let b := b.check (name ++ " wr_en")
    (decide ((dut b).wrAddr = expAddr) && decide ((dut b).wrData = expData) &&
      decide ((dut b).wrStrb = expStrb))
  let b := (b.posedge step).pause step
  return b.check (name ++ " wr_en one cycle") ((dut b).wrEn == false)

def tick (b : Sim) : Sim := (b.posedge step).negedge step

def offerAw (addr : BitVec 6) : Sim → Sim :=
  drive fun i => { i with sAxiAwaddr := addr, sAxiAwvalid := true }

def offerW (data : BitVec 32) (strb : BitVec 4) : Sim → Sim :=
  drive fun i => { i with sAxiWdata := data, sAxiWstrb := strb, sAxiWvalid := true }

def dropAw : Sim → Sim := drive fun i => { i with sAxiAwvalid := false }
def dropW : Sim → Sim := drive fun i => { i with sAxiWvalid := false }

def acknowledge (b : Sim) : Sim :=
  let b := drive (fun i => { i with sAxiBready := true }) b
  drive (fun i => { i with sAxiBready := false }) (tick b)

def axiWriteAwFirst (fuel : Nat) (addr : BitVec 6) (data : BitVec 32) (strb : BitVec 4)
    (b : Sim) : Option Sim := do
  let b := tick (offerAw addr (b.negedge step))
  let b := tick (offerW data strb (dropAw b))
  let b ← waitWritePulse fuel addr data strb "AW before W" (dropW b)
  let b := b.check "BVALID held before BREADY" ((dut b).sAxiBvalid == true)
  let b := b.posedges step 2
  let b := b.check "BVALID still held" ((dut b).sAxiBvalid == true)
  let b := acknowledge (b.negedge step)
  return b.check "BRESP OKAY" (decide ((dut b).sAxiBresp = 0b00))

def axiWriteWFirst (fuel : Nat) (addr : BitVec 6) (data : BitVec 32) (strb : BitVec 4)
    (b : Sim) : Option Sim := do
  let b := tick (offerW data strb (b.negedge step))
  let b := tick (offerAw addr (dropW b))
  let b ← waitWritePulse fuel addr data strb "W before AW" (dropAw b)
  return acknowledge b

def axiWriteSameCycle (fuel : Nat) (addr : BitVec 6) (data : BitVec 32) (strb : BitVec 4)
    (b : Sim) : Option Sim := do
  let b := tick (offerW data strb (offerAw addr (b.negedge step)))
  let b ← waitWritePulse fuel addr data strb "AW and W same cycle" (dropW (dropAw b))
  return acknowledge b

/-- `@(posedge aclk); while (!s_axi_arready) @(posedge aclk);` -/
def untilArready : Nat → Sim → Option Sim
  | 0, _ => none
  | fuel + 1, b =>
      let b := b.posedge step
      if (dut b).sAxiArready then some b else untilArready fuel b

/-- `wait (s_axi_rvalid);` which the block changes after a rising edge. -/
def waitRvalid : Nat → Sim → Option Sim
  | 0, _ => none
  | fuel + 1, b =>
      if (dut b).sAxiRvalid then some b else waitRvalid fuel ((b.posedge step).pause step)

/-- An AR handshake, and the wait for the word. -/
def requestRead (fuel : Nat) (addr : BitVec 6) (data : BitVec 32) (b : Sim) : Option Sim := do
  let b := drive (fun i => { i with rdData := data, sAxiAraddr := addr, sAxiArvalid := true })
    (b.negedge step)
  let b ← untilArready fuel b
  let b := drive (fun i => { i with sAxiArvalid := false }) (b.negedge step)
  waitRvalid fuel b

def takeWord (b : Sim) : Sim :=
  let b := drive (fun i => { i with sAxiRready := true }) (b.negedge step)
  drive (fun i => { i with sAxiRready := false }) (tick b)

def axiRead (fuel : Nat) (addr : BitVec 6) (data : BitVec 32) (name : String) (b : Sim) :
    Option Sim := do
  let b ← requestRead fuel addr data b
  let b := b.check (name ++ " address") (decide ((dut b).rdAddr = addr))
  let b := b.check (name ++ " data/resp")
    (decide ((dut b).sAxiRdata = data) && decide ((dut b).sAxiRresp = 0b00))
  let b := b.check (name ++ " RVALID held") ((dut b).sAxiRvalid == true)
  let b := b.posedges step 2
  let b := b.check (name ++ " RVALID held during stall") ((dut b).sAxiRvalid == true)
  return takeWord b

/-- `repeat (n) begin @(posedge aclk); check(..); end` -/
def checksAtEdges (name : String) (ok : Sim → Bool) : Nat → Sim → Sim
  | 0, b => b
  | n + 1, b =>
      let b := b.posedge step
      checksAtEdges name ok n (b.check name (ok b))

def bHeld (b : Sim) : Bool := (dut b).sAxiBvalid == true && decide ((dut b).sAxiBresp = 0b00)

def rHeld (data : BitVec 32) (b : Sim) : Bool :=
  (dut b).sAxiRvalid == true && decide ((dut b).sAxiRdata = data)

/-- The two processes of `axi_write_random`. -/
def awThread (addr : BitVec 6) (delay : Nat) : Thread (Axi4LiteSlave 6 32) Pins :=
  .posedges delay
    (.negedge (fun p => { p with port := { p.port with sAxiAwaddr := addr, sAxiAwvalid := true } })
      (.posedge (fun s => s.sAxiAwready)
        (.negedge (fun p => { p with port := { p.port with sAxiAwvalid := false } }) .finished)))

def wThread (data : BitVec 32) (strb : BitVec 4) (delay : Nat) :
    Thread (Axi4LiteSlave 6 32) Pins :=
  .posedges delay
    (.negedge (fun p =>
        { p with
          port := { p.port with sAxiWdata := data, sAxiWstrb := strb, sAxiWvalid := true } })
      (.posedge (fun s => s.sAxiWready)
        (.negedge (fun p => { p with port := { p.port with sAxiWvalid := false } }) .finished)))

def writeFork (t : Transaction) (b : Sim) : Fork (Axi4LiteSlave 6 32) Pins :=
  { first := awThread t.addr t.awDelay, second := wThread t.data t.strb t.wDelay, bench := b }

/-- `axi_write_random` after its `join`. -/
def axiWriteRandomJoined (fuel : Nat) (t : Transaction) (b : Sim) : Option Sim := do
  let b ← waitWritePulse fuel t.addr t.data t.strb "random AXI write" b
  let b := b.check "random BVALID asserted" ((dut b).sAxiBvalid == true)
  let b := checksAtEdges "random BVALID held during stall" bHeld t.respDelay b
  return acknowledge (b.negedge step)

def axiWriteRandom (fuel : Nat) (t : Transaction) (b : Sim) : Option Sim := do
  let b ← (writeFork t b).join step dut fuel
  axiWriteRandomJoined fuel t b

def axiReadRandom (fuel : Nat) (t : Transaction) (b : Sim) : Option Sim := do
  let b ← requestRead fuel t.addr t.data (b.posedges step t.awDelay)
  let b := b.check "random read address" (decide ((dut b).rdAddr = t.addr))
  let b := b.check "random read data/resp"
    (decide ((dut b).sAxiRdata = t.data) && decide ((dut b).sAxiRresp = 0b00))
  let b := checksAtEdges "random RVALID held during stall" (rHeld t.data) t.respDelay b
  return takeWord b

/-- An iteration of `random_axi_tests`, once its transaction is drawn. -/
def runTransaction (fuel : Nat) (t : Transaction) (b : Sim) : Option Sim :=
  if t.isWrite then axiWriteRandom fuel t b else axiReadRandom fuel t b

def randomTest (fuel : Nat) (seed : BitVec 32) (b : Sim) : Option (BitVec 32 × Sim) :=
  let (t, seed) := randomTransaction seed
  (runTransaction fuel t b).map fun b => (seed, b)

def randomAxiTests (fuel : Nat) : Nat → BitVec 32 → Sim → Option Sim
  | 0, _, b => some b
  | iterations + 1, seed, b => do
      let (seed, b) ← randomTest fuel seed b
      randomAxiTests fuel iterations seed b

/-- The initial block up to its random tests. -/
def directed (blockFirst : Bool) (fuel : Nat) (b : Sim) : Option Sim := do
  let b := resetDut blockFirst { b with errors := 0 }
  let b := b.check "reset outputs"
    (!(dut b).sAxiBvalid && !(dut b).sAxiRvalid && !(dut b).wrEn && (dut b).sAxiAwready &&
      (dut b).sAxiWready && (dut b).sAxiArready)
  let b ← axiWriteAwFirst fuel 0x08 0x11112222 0b1111 b
  let b ← axiWriteWFirst fuel 0x0C 0x33334444 0b0011 b
  let b ← axiWriteSameCycle fuel 0x10 0x00000003 0b1111 b
  let b ← axiWriteSameCycle fuel 0x14 0x5555AAAA 0b1111 b
  let b ← axiRead fuel 0x04 0xCAFEBABE "read transaction" b
  axiRead fuel 0x14 0x12345678 "back-to-back read" b

def main (blockFirst : Bool) (fuel iterations : Nat) (seed : BitVec 32) (b : Sim) :
    Option Sim := do
  let b ← directed blockFirst fuel b
  let b ← randomAxiTests fuel iterations seed b
  return b.finish "tb_axi4lite_slave"

end AxiAlu.TbAxi4LiteSlave
