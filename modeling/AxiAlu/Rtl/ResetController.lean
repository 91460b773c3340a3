import AxiAlu.Rtl.AvalonAxi4LiteAlu
import AxiAlu.Clocked.Reset

/-!
The part of `system` that resets the peripheral: `rst_controller`, an
`altera_reset_controller` with its `altera_reset_synchronizer`, and
`alu_axi4_lite_0`, both with the parameters they have there. The reset inputs are
asynchronous, so a cycle sees more of them than their level at the edge.
-/
namespace AxiAlu
open Clocked

/-- A reset input between two edges of the clock, the second one included. -/
inductive ResetLine
  | low
  | pulse  -- high for a while, and low again at the edge
  | high   -- high at the edge
deriving DecidableEq, Repr

def ResetLine.or : ResetLine → ResetLine → ResetLine
  | .high, _ | _, .high => .high
  | .pulse, _ | _, .pulse => .pulse
  | .low, .low => .low

/-- `DEPTH` is 2 and `ASYNC_RESET` is set. -/
structure AlteraResetSynchronizer where
  intChain : BitVec 2
  intChainOut : Bool
deriving DecidableEq, Repr

namespace AlteraResetSynchronizer

def set : AlteraResetSynchronizer := { intChain := 0b11#2, intChainOut := true }

/-- What the registers hold when the edge comes. -/
def atEdge (s : AlteraResetSynchronizer) (resetIn : ResetLine) : AlteraResetSynchronizer :=
  if resetIn = .low then s else set

def step (s : AlteraResetSynchronizer) (resetIn : ResetLine) : AlteraResetSynchronizer :=
  if resetIn = .high then set
  else
    { intChain := (s.atEdge resetIn).intChain >>> 1
      intChainOut := (s.atEdge resetIn).intChain.getLsbD 0 }

/-- `reset_out`, as the next register samples it. -/
def resetOut (s : AlteraResetSynchronizer) (resetIn : ResetLine) : Bool :=
  (s.atEdge resetIn).intChainOut

end AlteraResetSynchronizer

/-- `SYNC_DEPTH` and `DEPTH` are 2 and `RESET_REQUEST_PRESENT` is set. -/
structure AlteraResetController where
  altRstSyncUq1 : AlteraResetSynchronizer
  intChain : BitVec 3
  rSyncRstChain : BitVec 2
  rSyncRstDly : Bool
  rSyncRst : Bool
  rEarlyRst : Bool
deriving DecidableEq, Repr

namespace AlteraResetController

/-- What the `initial` blocks leave; there is none for the synchronizer. -/
def powerUp (synchronizer : AlteraResetSynchronizer) : AlteraResetController :=
  { altRstSyncUq1 := synchronizer
    intChain := 0b111#3
    rSyncRstChain := 0b11#2
    rSyncRstDly := true
    rSyncRst := true
    rEarlyRst := true }

/-- The `case` of the standard synchronous reset output. -/
def nextSyncRst : (rSyncRstDly rSyncRstChain1 rSyncRst : Bool) → Bool
  | false, false, false => false
  | false, false, true => false
  | false, true, false => false
  | false, true, true => true
  | true, false, false => true
  | true, false, true => true
  | true, true, false => true
  | true, true, true => true

/-- The `case` of the early reset output; `EARLY_RST_TAP` is 1. -/
def nextEarlyRst : (rSyncRstChain1 earlyRstTap : Bool) → Bool
  | false, false => false
  | false, true => true
  | true, false => false
  | true, true => true

def step (s : AlteraResetController) (mergedReset : ResetLine) : AlteraResetController :=
  { altRstSyncUq1 := s.altRstSyncUq1.step mergedReset
    intChain := (s.intChain.setWidth 2).concat (s.altRstSyncUq1.resetOut mergedReset)
    rSyncRstChain := if s.intChain.getLsbD 2 then 0b11#2 else s.rSyncRstChain >>> 1
    rSyncRstDly := s.rSyncRstChain.getLsbD 1
    rSyncRst := nextSyncRst s.rSyncRstDly (s.rSyncRstChain.getLsbD 1) s.rSyncRst
    rEarlyRst := nextEarlyRst (s.rSyncRstChain.getLsbD 1) (s.rSyncRstChain.getLsbD 1) }

def resetOut (s : AlteraResetController) : Bool := s.rSyncRst
def resetReq (s : AlteraResetController) : Bool := s.rEarlyRst

def machine (synchronizer : AlteraResetSynchronizer) : Machine AlteraResetController ResetLine :=
  { reset := powerUp synchronizer, step := step }

end AlteraResetController

/-- `rst_controller` and `alu_axi4_lite_0` of `system`. -/
structure AluSystem where
  rstController : AlteraResetController
  aluAxi4Lite0 : AvalonAxi4LiteAlu 6 32
deriving DecidableEq, Repr

namespace AluSystem

structure Input where
  resetIn0 : ResetLine  -- `~reset_reset_n`
  resetIn1 : ResetLine  -- `nios2_qsys_0_jtag_debug_module_reset_reset`
  avs : Avalon 6 32

/-- `merged_reset`; the other fourteen inputs are tied low. -/
def mergedReset (i : Input) : ResetLine := i.resetIn0.or i.resetIn1

/-- `reset_n` of the peripheral is `~rst_controller_reset_out_reset`. -/
def aluInput (s : AluSystem) (i : Input) : Resettable (Avalon 6 32) :=
  { reset := s.rstController.resetOut, input := i.avs }

def alu (s : AluSystem) : AvalonAxi4LiteAlu 6 32 :=
  AvalonAxi4LiteAlu.machine.shown s.rstController.resetOut s.aluAxi4Lite0

/-- Neither the synchronizer nor the peripheral has initial values. -/
def machine (synchronizer : AlteraResetSynchronizer) (contents : AvalonAxi4LiteAlu 6 32) :
    Machine AluSystem Input :=
  { reset :=
      { rstController := AlteraResetController.powerUp synchronizer, aluAxi4Lite0 := contents }
    step := fun s i =>
      { rstController := s.rstController.step (mergedReset i)
        aluAxi4Lite0 :=
          (AvalonAxi4LiteAlu.machine.underReset contents).step s.aluAxi4Lite0 (s.aluInput i) } }

end AluSystem
end AxiAlu
