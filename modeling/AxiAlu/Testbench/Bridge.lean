import AxiAlu.Clocked.Bench
import AxiAlu.Rtl.AvalonAxi4LiteBridge
import AxiAlu.Testbench.Random
import Mathlib.Logic.Function.Iterate

/-!
The testbench `tb_avalon_axi4lite_bridge`. It is the Avalon master and the AXI slave of
the bridge at once, and never waits for a signal of it.
-/
namespace AxiAlu.TbAvalonAxi4LiteBridge
open Clocked Testbench

structure Pins where
  resetN : Bool
  port : AvalonAxi4LiteBridge.Input 6 32

abbrev Sim := Bench (AvalonAxi4LiteBridge 6 32) Pins

def step (s : AvalonAxi4LiteBridge 6 32) (p : Pins) : AvalonAxi4LiteBridge 6 32 :=
  if p.resetN then s.step p.port else AvalonAxi4LiteBridge.reset

/-- The block as its outputs show it; its reset is asynchronous. -/
def dut (b : Sim) : AvalonAxi4LiteBridge 6 32 :=
  if b.pins.resetN then b.dut else AvalonAxi4LiteBridge.reset

abbrev Assignment := AvalonAxi4LiteBridge.Input 6 32 → AvalonAxi4LiteBridge.Input 6 32

def drive (f : Assignment) (b : Sim) : Sim := b.drive fun p => { p with port := f p.port }

/-- `@(negedge clk); up; @(posedge clk); @(negedge clk); down;` -/
def forOneCycle (up down : Assignment) (b : Sim) : Sim :=
  drive down (((drive up (b.negedge step)).posedge step).negedge step)

/-- `repeat (n) @(posedge clk); check(name, ok);` -/
def stallCheck (n : Nat) (name : String) (ok : AvalonAxi4LiteBridge 6 32 → Bool) (b : Sim) : Sim :=
  let b := b.posedges step n
  b.check name (ok (dut b))

def setAvsWrite (v : Bool) : Assignment := fun i => { i with avs := { i.avs with avsWrite := v } }
def setAvsRead (v : Bool) : Assignment := fun i => { i with avs := { i.avs with avsRead := v } }
def setAwready (v : Bool) : Assignment := fun i => { i with mAxiAwready := v }
def setWready (v : Bool) : Assignment := fun i => { i with mAxiWready := v }
def setBvalid (v : Bool) : Assignment := fun i => { i with mAxiBvalid := v }
def setArready (v : Bool) : Assignment := fun i => { i with mAxiArready := v }
def setRvalid (v : Bool) : Assignment := fun i => { i with mAxiRvalid := v }

def setCommand (addr : BitVec 6) (data : BitVec 32) (be : BitVec 4) : Assignment := fun i =>
  { i with
    avs :=
      { i.avs with
        avsAddress := addr, avsWritedata := data, avsByteenable := be, avsWrite := true } }

def resetDut (blockFirst : Bool) (b : Sim) : Sim :=
  let b := b.drive fun _ =>
    { resetN := false
      port :=
        { avs :=
            { avsAddress := 0, avsRead := false, avsWrite := false, avsWritedata := 0
              avsByteenable := 0 }
          mAxiAwready := false, mAxiWready := false, mAxiBresp := 0b00, mAxiBvalid := false
          mAxiArready := false, mAxiRdata := 0, mAxiRresp := 0b00, mAxiRvalid := false } }
  let b := b.posedges step 3
  let b := b.driveAtEdge blockFirst fun p => { p with resetN := true }
  b.posedge step

def avalonWrite (addr : BitVec 6) (data : BitVec 32) (be : BitVec 4)
    (awDelay wDelay bDelay : Nat) (name : String) (b : Sim) : Sim :=
  let b := forOneCycle (setCommand addr data be) (setAvsWrite false) b
  let b := b.check (name ++ " waitrequest busy") ((dut b).avsWaitrequest == true)
  let b := stallCheck awDelay (name ++ " AW stable")
    (fun s => decide (s.mAxiAwaddr = addr) && s.mAxiAwvalid) b
  let b := forOneCycle (setAwready true) (setAwready false) b
  let b := stallCheck wDelay (name ++ " W stable")
    (fun s => decide (s.mAxiWdata = data) && decide (s.mAxiWstrb = be) && s.mAxiWvalid) b
  let b := forOneCycle (setWready true) (setWready false) b
  let b := stallCheck bDelay (name ++ " BREADY before response") (fun s => s.mAxiBready == true) b
  let b := forOneCycle (setBvalid true) (setBvalid false) b
  stallCheck 1 (name ++ " idle after response") (fun s => s.avsWaitrequest == false) b

/-- AWREADY is driven at a rising edge here. -/
def avalonWriteWFirst (blockFirst : Bool) (addr : BitVec 6) (data : BitVec 32) (be : BitVec 4)
    (b : Sim) : Sim :=
  let b := forOneCycle (setCommand addr data be)
    (fun i => setWready true (setAvsWrite false i)) b
  let b := drive (setWready false) ((b.posedge step).negedge step)
  let b := stallCheck 2 "W before AW keeps AWVALID" (fun s => s.mAxiAwvalid && !s.mAxiWvalid) b
  let b := b.driveAtEdge blockFirst fun p => { p with port := setAwready true p.port }
  let b := (b.posedge step).negedge step
  let b := drive (fun i => setBvalid true (setAwready false i)) b
  drive (setBvalid false) ((b.posedge step).negedge step)

def avalonRead (addr : BitVec 6) (data : BitVec 32) (arDelay rDelay : Nat) (name : String)
    (b : Sim) : Sim :=
  let b := forOneCycle
    (fun i => { i with avs := { i.avs with avsAddress := addr, avsRead := true } })
    (setAvsRead false) b
  let b := stallCheck arDelay (name ++ " AR stable")
    (fun s => s.mAxiArvalid && decide (s.mAxiAraddr = addr)) b
  let b := forOneCycle (setArready true) (setArready false) b
  let b := stallCheck rDelay (name ++ " RREADY waiting") (fun s => s.mAxiRready == true) b
  let b := forOneCycle (fun i => setRvalid true { i with mAxiRdata := data }) (setRvalid false) b
  let b := stallCheck 1 (name ++ " read data valid pulse")
    (fun s => s.avsReaddatavalid && decide (s.avsReaddata = data)) b
  stallCheck 1 (name ++ " read data valid one cycle") (fun s => !s.avsReaddatavalid) b

/-- A read and a write command in the same cycle, with an error response. -/
def simultaneous (b : Sim) : Sim :=
  let b := forOneCycle (fun i => setAvsRead true (setCommand 0x20 0x12345678 0b1111 i))
    (fun i => setAvsRead false (setAvsWrite false i)) b
  let b := b.check "simultaneous read/write chooses write"
    ((dut b).mAxiAwvalid && (dut b).mAxiWvalid && !(dut b).mAxiArvalid)
  let b := drive (fun i => setWready true (setAwready true i)) b
  let b := (b.posedge step).negedge step
  let b := drive
    (fun i => { setBvalid true (setWready false (setAwready false i)) with mAxiBresp := 0b10 }) b
  let b := (b.posedge step).negedge step
  let b := drive (fun i => { setBvalid false i with mAxiBresp := 0b00 }) b
  b.posedge step

structure Command where
  addr : BitVec 6
  data : BitVec 32
  be : BitVec 4
  awDelay : Nat
  wDelay : Nat
  respDelay : Nat
  isRead : Bool

/-- What `random_bridge_tests` draws for an iteration, with the seed that it leaves. -/
def randomCommand (seed : BitVec 32) : Command × BitVec 32 :=
  let addr := rand32 seed
  let word := randomWord addr
  let awDelay := rand32 word.seed
  let wDelay := rand32 awDelay
  let respDelay := rand32 wDelay
  let kind := rand32 respDelay
  ({ addr := addr.setWidth 6
     data := word.data
     be := word.strb
     awDelay := awDelay.toNat % 5
     wDelay := wDelay.toNat % 5
     respDelay := respDelay.toNat % 5
     isRead := kind.toNat % 3 = 0 }, kind)

def randomTest (c : Command) (b : Sim) : Sim :=
  if c.isRead then avalonRead c.addr c.data c.awDelay c.respDelay "random Avalon read" b
  else avalonWrite c.addr c.data c.be c.awDelay c.wDelay c.respDelay "random Avalon write" b

/-- One iteration of `random_bridge_tests`, with the seed. -/
def randomIteration (p : BitVec 32 × Sim) : BitVec 32 × Sim :=
  ((randomCommand p.1).2, randomTest (randomCommand p.1).1 p.2)

def randomBridgeTests (iterations : Nat) (seed : BitVec 32) (b : Sim) : Sim :=
  (randomIteration^[iterations] (seed, b)).2

/-- The initial block. It drives reset and AWREADY at a rising edge, each of them once. -/
def main (blockFirstAtReset blockFirstAtAwready : Bool) (iterations : Nat) (seed : BitVec 32)
    (b : Sim) : Sim :=
  let b := resetDut blockFirstAtReset { b with errors := 0 }
  let b := b.check "reset outputs"
    (!(dut b).avsWaitrequest && !(dut b).avsReaddatavalid && !(dut b).mAxiAwvalid &&
      !(dut b).mAxiWvalid && !(dut b).mAxiArvalid)
  let b := avalonWrite 0x08 0xAAAA5555 0b1111 0 0 2 "write AW/W same cycle" b
  let b := avalonWrite 0x0C 0x11112222 0b0011 0 3 1 "write AW before W" b
  let b := avalonWriteWFirst blockFirstAtAwready 0x10 0x00000002 0b1111 b
  let b := avalonRead 0x14 0xDEADBEEF 2 3 "read with delays" b
  let b := simultaneous b
  let b := randomBridgeTests iterations seed b
  b.finish "tb_avalon_axi4lite_bridge"

end AxiAlu.TbAvalonAxi4LiteBridge
