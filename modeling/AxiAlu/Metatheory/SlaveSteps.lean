import AxiAlu.Rtl.Axi4LiteSlave

/-!
What one clock edge does to each register of the slave. The assignments of the
clocked block overlap; the laws below resolve the last-assignment rule once, in
terms of the handshakes of the cycle and of the pairing of address and word.
-/
namespace AxiAlu.Axi4LiteSlave
variable {addrWidth dataWidth : Nat}

def awFire (s : Axi4LiteSlave addrWidth dataWidth) (i : Input addrWidth dataWidth) : Bool :=
  i.sAxiAwvalid && s.sAxiAwready
def wFire (s : Axi4LiteSlave addrWidth dataWidth) (i : Input addrWidth dataWidth) : Bool :=
  i.sAxiWvalid && s.sAxiWready
def bFire (s : Axi4LiteSlave addrWidth dataWidth) (i : Input addrWidth dataWidth) : Bool :=
  s.sAxiBvalid && i.sAxiBready
def arFire (s : Axi4LiteSlave addrWidth dataWidth) (i : Input addrWidth dataWidth) : Bool :=
  i.sAxiArvalid && s.sAxiArready
def rFire (s : Axi4LiteSlave addrWidth dataWidth) (i : Input addrWidth dataWidth) : Bool :=
  s.sAxiRvalid && i.sAxiRready

/-- A buffered address and a buffered word leave together in this cycle. -/
def pairs (s : Axi4LiteSlave addrWidth dataWidth) : Bool := !s.bvalidQ && s.awV && s.wV

section Steps
variable (s : Axi4LiteSlave addrWidth dataWidth) (i : Input addrWidth dataWidth)

theorem step_wrEn : (s.step i).wrEn = s.pairs := by
  simp only [step, apply_ite wrEn, ite_self, pairs]
  cases (!s.bvalidQ && s.awV && s.wV) <;> rfl

theorem step_awV : (s.step i).awV = (!s.pairs && (s.awV || s.awFire i)) := by
  simp only [step, apply_ite awV, ite_self, pairs, awFire]
  cases (!s.bvalidQ && s.awV && s.wV) <;> cases s.awV <;>
    cases (i.sAxiAwvalid && s.sAxiAwready) <;> rfl

theorem step_wV : (s.step i).wV = (!s.pairs && (s.wV || s.wFire i)) := by
  simp only [step, apply_ite wV, ite_self, pairs, wFire]
  cases (!s.bvalidQ && s.awV && s.wV) <;> cases s.wV <;>
    cases (i.sAxiWvalid && s.sAxiWready) <;> rfl

theorem step_bvalidQ : (s.step i).bvalidQ = (s.pairs || (s.bvalidQ && !i.sAxiBready)) := by
  simp only [step, apply_ite bvalidQ, ite_self, pairs]
  cases s.bvalidQ <;> cases i.sAxiBready <;> cases s.awV <;> cases s.wV <;> rfl

theorem step_awaddrQ :
    (s.step i).awaddrQ = if s.awFire i then i.sAxiAwaddr else s.awaddrQ := by
  simp only [step, apply_ite awaddrQ, ite_self, awFire]
  rfl

theorem step_wdataQ : (s.step i).wdataQ = if s.wFire i then i.sAxiWdata else s.wdataQ := by
  simp only [step, apply_ite wdataQ, ite_self, wFire]
  rfl

theorem step_wstrbQ : (s.step i).wstrbQ = if s.wFire i then i.sAxiWstrb else s.wstrbQ := by
  simp only [step, apply_ite wstrbQ, ite_self, wFire]
  rfl

theorem step_wrAddr : (s.step i).wrAddr = if s.pairs then s.awaddrQ else s.wrAddr := by
  simp only [step, apply_ite wrAddr, ite_self, pairs]
  rfl

theorem step_wrData : (s.step i).wrData = if s.pairs then s.wdataQ else s.wrData := by
  simp only [step, apply_ite wrData, ite_self, pairs]
  rfl

theorem step_wrStrb : (s.step i).wrStrb = if s.pairs then s.wstrbQ else s.wrStrb := by
  simp only [step, apply_ite wrStrb, ite_self, pairs]
  rfl

theorem step_readPending : (s.step i).readPending = s.arFire i := by
  simp only [step, apply_ite readPending, ite_self, arFire, sAxiArready]
  cases s.readPending <;> cases i.sAxiArvalid <;> cases s.rvalidQ <;> rfl

theorem step_araddrQ :
    (s.step i).araddrQ = if s.arFire i then i.sAxiAraddr else s.araddrQ := by
  simp only [step, apply_ite araddrQ, ite_self, arFire]
  rfl

theorem step_rdataQ : (s.step i).rdataQ = if s.readPending then i.rdData else s.rdataQ := by
  simp only [step, apply_ite rdataQ, ite_self]

theorem step_rvalidQ :
    (s.step i).rvalidQ = (!s.rFire i && (s.readPending || s.rvalidQ)) := by
  simp only [step, apply_ite rvalidQ, ite_self, rFire, sAxiRvalid]
  cases s.rvalidQ <;> cases i.sAxiRready <;> cases s.readPending <;> rfl

end Steps

end AxiAlu.Axi4LiteSlave
