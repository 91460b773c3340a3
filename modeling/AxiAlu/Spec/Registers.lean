import AxiAlu.Rtl.AxiRegisterBank

/-!
What software is told about the peripheral: the three operand registers, how a
write changes them, and what an operation on them yields. This is the purpose of
the design stated on its own; none of it is clocked.
-/
namespace AxiAlu
open AxiRegisterBank

/-- The widths the address map and the byte strobes are made for. -/
structure LegalWidths (addrWidth dataWidth : Nat) : Prop where
  addr : 5 ≤ addrWidth
  bytes : 8 ∣ dataWidth
  positive : 0 < dataWidth

theorem legalWidths_default : LegalWidths 6 32 :=
  ⟨by decide, by decide, by decide⟩

/-- Result and error of an operation: arithmetic modulo the word, unsigned floor
division, and a zero result with the error set for a division by zero and for
every opcode above 3. -/
def aluFunction {opcodeWidth dataWidth : Nat} (opcode : BitVec opcodeWidth)
    (a b : BitVec dataWidth) : BitVec dataWidth × Bool :=
  match opcode.toNat with
  | 0 => (a + b, false)
  | 1 => (a - b, false)
  | 2 => (a * b, false)
  | 3 => if b = 0 then (0, true) else (a / b, false)
  | _ => (0, true)

/-- One write: address, word, and the byte lanes it selects. -/
structure Write (addrWidth dataWidth : Nat) where
  addr : BitVec addrWidth
  data : BitVec dataWidth
  strb : BitVec (dataWidth / 8)
deriving DecidableEq, Repr

variable {addrWidth dataWidth : Nat}

/-- The write whose address and word arrived on two channels. -/
def Write.ofChannels (p : BitVec addrWidth × BitVec dataWidth × BitVec (dataWidth / 8)) :
    Write addrWidth dataWidth :=
  { addr := p.1, data := p.2.1, strb := p.2.2 }

/-- The write that a port presents in a cycle. -/
def Write.ofPort (wrEn : Bool) (wrAddr : BitVec addrWidth) (wrData : BitVec dataWidth)
    (wrStrb : BitVec (dataWidth / 8)) : Option (Write addrWidth dataWidth) :=
  if wrEn then some { addr := wrAddr, data := wrData, strb := wrStrb } else none

def Write.isStart (w : Write addrWidth dataWidth) : Bool :=
  decide (w.addr = addrCtrl) && w.strb.getLsbD 0 && w.data.getLsbD 0

def Write.hitsLane (addr : BitVec addrWidth) (i : Nat) (w : Write addrWidth dataWidth) : Bool :=
  decide (w.addr = addr) && w.strb.getLsbD i

/-- The bits of the byte lanes that are selected. -/
def laneMask (strb : BitVec (dataWidth / 8)) : BitVec dataWidth :=
  (BitVec.ofBoolListLE ((List.range dataWidth).map fun j => strb.getLsbD (j / 8))).setWidth
    dataWidth

/-- The selected lanes are taken from the new word, the others from the old. -/
def mergeLanes (oldData newData : BitVec dataWidth) (strb : BitVec (dataWidth / 8)) :
    BitVec dataWidth :=
  (newData &&& laneMask strb) ||| (oldData &&& ~~~laneMask strb)

theorem getLsbD_laneMask (strb : BitVec (dataWidth / 8)) {j : Nat} (hj : j < dataWidth) :
    (laneMask strb).getLsbD j = strb.getLsbD (j / 8) := by
  rw [laneMask, BitVec.getLsbD_setWidth, BitVec.getLsbD_ofBoolListLE]
  simp [hj]

theorem getLsbD_mergeLanes (oldData newData : BitVec dataWidth) (strb : BitVec (dataWidth / 8))
    {j : Nat} (hj : j < dataWidth) :
    (mergeLanes oldData newData strb).getLsbD j =
      if strb.getLsbD (j / 8) then newData.getLsbD j else oldData.getLsbD j := by
  rw [mergeLanes, BitVec.getLsbD_or, BitVec.getLsbD_and, BitVec.getLsbD_and,
    BitVec.getLsbD_not, getLsbD_laneMask strb hj]
  cases strb.getLsbD (j / 8) <;> simp [hj]

structure Registers (dataWidth : Nat) where
  a : BitVec dataWidth
  b : BitVec dataWidth
  opcode : BitVec 4
deriving DecidableEq, Repr

namespace Registers

def zero : Registers dataWidth := { a := 0, b := 0, opcode := 0 }

def write (r : Registers dataWidth) (w : Write addrWidth dataWidth) : Registers dataWidth :=
  if w.addr = addrCtrl then r
  else if w.addr = addrA then { r with a := mergeLanes r.a w.data w.strb }
  else if w.addr = addrB then { r with b := mergeLanes r.b w.data w.strb }
  else if w.addr = addrOpcode then
    { r with opcode := (mergeLanes (r.opcode.setWidth dataWidth) w.data w.strb).setWidth 4 }
  else r

def after (ws : List (Write addrWidth dataWidth)) : Registers dataWidth :=
  ws.foldl write zero

/-- What the registers show at an address; nothing shows at those of CTRL, of STATUS
and RESULT, which are not theirs, and at unmapped ones. -/
def read (r : Registers dataWidth) (addr : BitVec addrWidth) : BitVec dataWidth :=
  if addr = addrCtrl then 0
  else if addr = addrA then r.a
  else if addr = addrB then r.b
  else if addr = addrOpcode then r.opcode.setWidth dataWidth
  else 0

def outcome (r : Registers dataWidth) : BitVec dataWidth × Bool :=
  aluFunction r.opcode r.a r.b

theorem write_ctrl (r : Registers dataWidth) {w : Write addrWidth dataWidth}
    (h : w.addr = addrCtrl) : r.write w = r :=
  if_pos h

theorem write_start (r : Registers dataWidth) {w : Write addrWidth dataWidth}
    (h : w.isStart = true) : r.write w = r := by
  simp only [Write.isStart, Bool.and_eq_true, decide_eq_true_eq] at h
  exact write_ctrl r h.1.1

end Registers

/-- What a write does to the registers and to the outcomes of the operations asked
for: a start takes its outcome from the registers that stand when it is given. -/
def Registers.record (l : Registers dataWidth × List (BitVec dataWidth × Bool))
    (w : Write addrWidth dataWidth) : Registers dataWidth × List (BitVec dataWidth × Bool) :=
  (l.1.write w, if w.isStart then l.2 ++ [l.1.outcome] else l.2)

/-- The outcomes of the operations that a list of writes asks for, oldest first. -/
def operations (ws : List (Write addrWidth dataWidth)) : List (BitVec dataWidth × Bool) :=
  (ws.foldl Registers.record (Registers.zero, [])).2

theorem Registers.foldl_record_fst (l : Registers dataWidth × List (BitVec dataWidth × Bool))
    (ws : List (Write addrWidth dataWidth)) :
    (ws.foldl Registers.record l).1 = ws.foldl Registers.write l.1 := by
  induction ws generalizing l with
  | nil => rfl
  | cons w ws ih => exact ih (Registers.record l w)

theorem operations_length (ws : List (Write addrWidth dataWidth)) :
    (operations ws).length = ws.countP Write.isStart := by
  suffices counted : ∀ l : Registers dataWidth × List (BitVec dataWidth × Bool),
      (ws.foldl Registers.record l).2.length = l.2.length + ws.countP Write.isStart by
    rw [operations, counted]
    exact Nat.zero_add _
  induction ws with
  | nil => exact fun l => rfl
  | cons w ws ih =>
      intro l
      rw [List.foldl_cons, ih, List.countP_cons]
      cases h : w.isStart <;> simp [Registers.record, h]
      omega

/-- A start adds the outcome of the registers that the writes before it have left. -/
theorem operations_append_start (ws : List (Write addrWidth dataWidth))
    {w : Write addrWidth dataWidth} (start : w.isStart = true) :
    operations (ws ++ [w]) = operations ws ++ [(Registers.after ws).outcome] := by
  rw [operations, List.foldl_append]
  simp only [List.foldl_cons, List.foldl_nil, Registers.record, start, if_true,
    Registers.foldl_record_fst]
  rfl

/-- The result that stands in RESULT once the operations `ops` have completed. -/
def published (ops : List (BitVec dataWidth × Bool)) : BitVec dataWidth :=
  (ops.getLast?.map Prod.fst).getD 0

end AxiAlu
