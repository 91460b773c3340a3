import AxiAlu.Rtl.AvalonAxi4LiteBridge

/-!
The block `avalon_axi4lite_bridge` once more, with `state_q` as it is declared: an
`enum logic [2:0]`, of whose eight encodings five are named. Here the `default` branch
of the case statement has its place. What the AXI and Avalon sides drive is the same.
-/
namespace AxiAlu
open Clocked

structure EncodedBridge (addrWidth dataWidth : Nat) where
  stateQ : BitVec 3
  addrQ : BitVec addrWidth
  writedataQ : BitVec dataWidth
  byteenableQ : BitVec (dataWidth / 8)
  awDoneQ : Bool
  wDoneQ : Bool
  avsReaddata : BitVec dataWidth
  avsReaddatavalid : Bool
deriving DecidableEq, Repr

namespace EncodedBridge
variable {addrWidth dataWidth : Nat}

def stIdle : BitVec 3 := 0
def stWrite : BitVec 3 := 1
def stWriteResp : BitVec 3 := 2
def stReadAddr : BitVec 3 := 3
def stReadData : BitVec 3 := 4

def avsWaitrequest (s : EncodedBridge addrWidth dataWidth) : Bool := s.stateQ != stIdle

def mAxiAwvalid (s : EncodedBridge addrWidth dataWidth) : Bool :=
  s.stateQ == stWrite && !s.awDoneQ
def mAxiWvalid (s : EncodedBridge addrWidth dataWidth) : Bool :=
  s.stateQ == stWrite && !s.wDoneQ
def mAxiBready (s : EncodedBridge addrWidth dataWidth) : Bool := s.stateQ == stWriteResp
def mAxiArvalid (s : EncodedBridge addrWidth dataWidth) : Bool := s.stateQ == stReadAddr
def mAxiRready (s : EncodedBridge addrWidth dataWidth) : Bool := s.stateQ == stReadData

def stateD (s : EncodedBridge addrWidth dataWidth)
    (i : AvalonAxi4LiteBridge.Input addrWidth dataWidth) : BitVec 3 :=
  if s.stateQ = stIdle then
    if i.avs.avsWrite then stWrite else if i.avs.avsRead then stReadAddr else s.stateQ
  else if s.stateQ = stWrite then
    if (s.awDoneQ || i.mAxiAwready) && (s.wDoneQ || i.mAxiWready) then stWriteResp else s.stateQ
  else if s.stateQ = stWriteResp then if i.mAxiBvalid then stIdle else s.stateQ
  else if s.stateQ = stReadAddr then if i.mAxiArready then stReadData else s.stateQ
  else if s.stateQ = stReadData then if i.mAxiRvalid then stIdle else s.stateQ
  else stIdle

def reset : EncodedBridge addrWidth dataWidth :=
  { stateQ := stIdle, addrQ := 0, writedataQ := 0, byteenableQ := 0, awDoneQ := false
    wDoneQ := false, avsReaddata := 0, avsReaddatavalid := false }

def step (s : EncodedBridge addrWidth dataWidth)
    (i : AvalonAxi4LiteBridge.Input addrWidth dataWidth) : EncodedBridge addrWidth dataWidth :=
  let n := { s with stateQ := stateD s i, avsReaddatavalid := false }
  let n :=
    if s.stateQ == stIdle && !s.avsWaitrequest then
      if i.avs.avsWrite || i.avs.avsRead then
        { n with
          addrQ := i.avs.avsAddress
          writedataQ := i.avs.avsWritedata
          byteenableQ := i.avs.avsByteenable
          awDoneQ := false
          wDoneQ := false }
      else n
    else n
  let n := if s.stateQ == stWrite && i.mAxiAwready then { n with awDoneQ := true } else n
  let n := if s.stateQ == stWrite && i.mAxiWready then { n with wDoneQ := true } else n
  let n :=
    if s.stateQ == stWriteResp && i.mAxiBvalid then { n with awDoneQ := false, wDoneQ := false }
    else n
  if s.stateQ == stReadData && i.mAxiRvalid then
    { n with avsReaddata := i.mAxiRdata, avsReaddatavalid := true }
  else n

def machine : Machine (EncodedBridge addrWidth dataWidth)
    (AvalonAxi4LiteBridge.Input addrWidth dataWidth) :=
  { reset := reset, step := step }

end EncodedBridge

/-- The encoding of a named state. -/
def BridgeState.code : BridgeState → BitVec 3
  | .idle => EncodedBridge.stIdle
  | .write => EncodedBridge.stWrite
  | .writeResp => EncodedBridge.stWriteResp
  | .readAddr => EncodedBridge.stReadAddr
  | .readData => EncodedBridge.stReadData

def AvalonAxi4LiteBridge.encode {addrWidth dataWidth : Nat}
    (s : AvalonAxi4LiteBridge addrWidth dataWidth) : EncodedBridge addrWidth dataWidth :=
  { stateQ := s.stateQ.code
    addrQ := s.addrQ
    writedataQ := s.writedataQ
    byteenableQ := s.byteenableQ
    awDoneQ := s.awDoneQ
    wDoneQ := s.wDoneQ
    avsReaddata := s.avsReaddata
    avsReaddatavalid := s.avsReaddatavalid }

end AxiAlu
