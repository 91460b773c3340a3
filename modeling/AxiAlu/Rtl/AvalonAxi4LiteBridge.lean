import AxiAlu.Clocked.Machine
import Mathlib.Tactic.Common

/-!
The block `avalon_axi4lite_bridge`: one Avalon command at a time becomes one
AXI4-Lite write or read. The state is an enumeration of the five named states; the
`default` branch of the source, for encodings that name no state, has its counterpart
in `EncodedBridge`. `m_axi_bresp` and `m_axi_rresp` are inputs that no register reads.
-/
namespace AxiAlu
open Clocked

inductive BridgeState where
  | idle
  | write
  | writeResp
  | readAddr
  | readData
deriving DecidableEq, Repr

/-- The Avalon inputs of one cycle. -/
structure Avalon (addrWidth dataWidth : Nat) where
  avsAddress : BitVec addrWidth
  avsRead : Bool
  avsWrite : Bool
  avsWritedata : BitVec dataWidth
  avsByteenable : BitVec (dataWidth / 8)
deriving DecidableEq, Repr

structure AvalonAxi4LiteBridge (addrWidth dataWidth : Nat) where
  stateQ : BridgeState
  addrQ : BitVec addrWidth
  writedataQ : BitVec dataWidth
  byteenableQ : BitVec (dataWidth / 8)
  awDoneQ : Bool
  wDoneQ : Bool
  avsReaddata : BitVec dataWidth
  avsReaddatavalid : Bool
deriving DecidableEq, Repr

namespace AvalonAxi4LiteBridge
variable {addrWidth dataWidth : Nat}

/-- The inputs of one cycle: the Avalon side, and what the AXI slave drives. -/
structure Input (addrWidth dataWidth : Nat) where
  avs : Avalon addrWidth dataWidth
  mAxiAwready : Bool
  mAxiWready : Bool
  mAxiBresp : BitVec 2
  mAxiBvalid : Bool
  mAxiArready : Bool
  mAxiRdata : BitVec dataWidth
  mAxiRresp : BitVec 2
  mAxiRvalid : Bool

def avsWaitrequest (s : AvalonAxi4LiteBridge addrWidth dataWidth) : Bool := s.stateQ != .idle

def mAxiAwaddr (s : AvalonAxi4LiteBridge addrWidth dataWidth) : BitVec addrWidth := s.addrQ
def mAxiWdata (s : AvalonAxi4LiteBridge addrWidth dataWidth) : BitVec dataWidth := s.writedataQ
def mAxiWstrb (s : AvalonAxi4LiteBridge addrWidth dataWidth) : BitVec (dataWidth / 8) :=
  s.byteenableQ
def mAxiAraddr (s : AvalonAxi4LiteBridge addrWidth dataWidth) : BitVec addrWidth := s.addrQ

def mAxiAwvalid (s : AvalonAxi4LiteBridge addrWidth dataWidth) : Bool :=
  s.stateQ == .write && !s.awDoneQ
def mAxiWvalid (s : AvalonAxi4LiteBridge addrWidth dataWidth) : Bool :=
  s.stateQ == .write && !s.wDoneQ
def mAxiBready (s : AvalonAxi4LiteBridge addrWidth dataWidth) : Bool := s.stateQ == .writeResp
def mAxiArvalid (s : AvalonAxi4LiteBridge addrWidth dataWidth) : Bool := s.stateQ == .readAddr
def mAxiRready (s : AvalonAxi4LiteBridge addrWidth dataWidth) : Bool := s.stateQ == .readData

def stateD (s : AvalonAxi4LiteBridge addrWidth dataWidth) (i : Input addrWidth dataWidth) :
    BridgeState :=
  match s.stateQ with
  | .idle =>
      if i.avs.avsWrite then .write else if i.avs.avsRead then .readAddr else .idle
  | .write =>
      if (s.awDoneQ || i.mAxiAwready) && (s.wDoneQ || i.mAxiWready) then .writeResp else .write
  | .writeResp => if i.mAxiBvalid then .idle else .writeResp
  | .readAddr => if i.mAxiArready then .readData else .readAddr
  | .readData => if i.mAxiRvalid then .idle else .readData

def reset : AvalonAxi4LiteBridge addrWidth dataWidth :=
  { stateQ := .idle, addrQ := 0, writedataQ := 0, byteenableQ := 0, awDoneQ := false
    wDoneQ := false, avsReaddata := 0, avsReaddatavalid := false }

def step (s : AvalonAxi4LiteBridge addrWidth dataWidth) (i : Input addrWidth dataWidth) :
    AvalonAxi4LiteBridge addrWidth dataWidth :=
  let n := { s with stateQ := stateD s i, avsReaddatavalid := false }
  let n :=
    if s.stateQ == .idle && !s.avsWaitrequest then
      if i.avs.avsWrite || i.avs.avsRead then
        { n with
          addrQ := i.avs.avsAddress
          writedataQ := i.avs.avsWritedata
          byteenableQ := i.avs.avsByteenable
          awDoneQ := false
          wDoneQ := false }
      else n
    else n
  let n := if s.stateQ == .write && i.mAxiAwready then { n with awDoneQ := true } else n
  let n := if s.stateQ == .write && i.mAxiWready then { n with wDoneQ := true } else n
  let n :=
    if s.stateQ == .writeResp && i.mAxiBvalid then { n with awDoneQ := false, wDoneQ := false }
    else n
  if s.stateQ == .readData && i.mAxiRvalid then
    { n with avsReaddata := i.mAxiRdata, avsReaddatavalid := true }
  else n

def machine : Machine (AvalonAxi4LiteBridge addrWidth dataWidth) (Input addrWidth dataWidth) :=
  { reset := reset, step := step }

end AvalonAxi4LiteBridge
end AxiAlu
