import AxiAlu.Software.Program

/-!
What a program does to the peripheral when its accesses are taken one after the other,
without a cycle in it. Time is left in one place: an access that follows a start with
too few idle cycles between them meets the operation in progress.
-/
namespace AxiAlu
variable {addrWidth dataWidth : Nat} {α β : Type}

/-- The registers, and the outcomes of the operations asked for. -/
abbrev Ledger (dataWidth : Nat) := Registers dataWidth × List (BitVec dataWidth × Bool)

/-- The write of a word on all byte lanes. -/
def Write.whole (addr : BitVec addrWidth) (word : BitVec dataWidth) : Write addrWidth dataWidth :=
  { addr := addr, data := word, strb := BitVec.allOnes (dataWidth / 8) }

def Ledger.read (ledger : Ledger dataWidth) (inProgress : Bool) (addr : BitVec addrWidth) :
    BitVec dataWidth :=
  Engine.read { regs := ledger.1, ops := ledger.2, wait := inProgress.toNat } addr

namespace Program

/-- The value, the accesses and the ledger that a program ends with. Before its `k`-th
access there are `gaps k` idle cycles; the flag says whether the first access would meet
an operation in progress. -/
def perform : Program addrWidth dataWidth α → (Nat → Nat) → Bool → Ledger dataWidth →
    α × List (Access addrWidth dataWidth) × Ledger dataWidth
  | .done value, _, _, ledger => (value, [], ledger)
  | .write addr word next, gaps, _, ledger =>
      let w := Write.whole addr word
      let (value, log, ledger) :=
        perform next (fun k => gaps (k + 1)) (w.isStart && decide (gaps 1 ≤ 3))
          (Registers.record ledger w)
      (value, .write addr word :: log, ledger)
  | .read addr next, gaps, inProgress, ledger =>
      let word := ledger.read inProgress addr
      let (value, log, ledger) := perform (next word) (fun k => gaps (k + 1)) false ledger
      (value, .read addr word :: log, ledger)

end Program
end AxiAlu
