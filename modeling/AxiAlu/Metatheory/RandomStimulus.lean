import AxiAlu.Metatheory.RegisterBankTestbench
import AxiAlu.Metatheory.SlaveTestbench
import Mathlib.Order.Bounds.Basic

/-!
What the random tests never try. The two low bits of the numbers that are drawn count
down, so what a test takes from them depends on the place of its draw, not on chance.
-/
namespace AxiAlu.Testbench

/-- The two low bits of a number that is drawn. -/
def phase (seed : BitVec 32) : BitVec 2 := seed.setWidth 2

theorem phase_affine (seed m c : BitVec 32) :
    phase (seed * m + c) = phase seed * phase m + phase c := by
  have short : 2 ≤ 32 := by decide
  simp only [phase, BitVec.setWidth_add _ _ short, BitVec.setWidth_mul _ _ short]

theorem phase_rand32 (seed : BitVec 32) : phase (rand32 seed) = phase seed - 1 := by
  have counts : ∀ x : BitVec 2, x * 1#2 + 3#2 = x - 1 := by decide
  have multiplier : phase 1664525#32 = 1#2 := by decide
  have increment : phase 1013904223#32 = 3#2 := by decide
  unfold rand32
  rw [phase_affine, multiplier, increment]
  exact counts _

theorem getLsbD_phase (seed : BitVec 32) {i : Nat} (low : i < 2) :
    (phase seed).getLsbD i = seed.getLsbD i := by
  simp [phase, low]

theorem getLsbD_rand32 (seed : BitVec 32) : (rand32 seed).getLsbD 0 = !seed.getLsbD 0 := by
  have alternates : ∀ x : BitVec 2, (x - 1).getLsbD 0 = !x.getLsbD 0 := by decide
  calc
    (rand32 seed).getLsbD 0 = (phase (rand32 seed)).getLsbD 0 :=
      (getLsbD_phase _ (by decide)).symm
    _ = (phase seed - 1).getLsbD 0 := by rw [phase_rand32]
    _ = !(phase seed).getLsbD 0 := alternates _
    _ = !seed.getLsbD 0 := by rw [getLsbD_phase _ (by decide)]

theorem mod_four (seed : BitVec 32) : seed.toNat % 4 = (phase seed).toNat := by
  simp [phase, BitVec.toNat_setWidth]

theorem decide_and_one (x : BitVec 32) : decide (x &&& 1 = 0) = !x.getLsbD 0 := by
  have bit : x &&& 1 = BitVec.setWidth 32 (BitVec.ofBool (x.getLsbD 0)) :=
    BitVec.and_one_eq_setWidth_ofBool_getLsbD
  rw [bit]
  cases x.getLsbD 0 <;> decide

section Word
variable {seed : BitVec 32}

theorem randomWord_some (some : (rand32 (rand32 seed)).setWidth 4 ≠ 0) :
    randomWord seed =
      { data := rand32 seed
        strb := (rand32 (rand32 seed)).setWidth 4
        seed := rand32 (rand32 seed) } := if_neg some

theorem randomWord_none (none : (rand32 (rand32 seed)).setWidth 4 = 0) :
    randomWord seed =
      { data := rand32 seed
        strb := 0b0001#4 <<< ((rand32 (rand32 (rand32 seed))).toNat % 4)
        seed := rand32 (rand32 (rand32 seed)) } := if_pos none

end Word

variable (seed : BitVec 32)

theorem data_phase : phase (randomWord seed).data = phase seed - 1 := by
  by_cases none : (rand32 (rand32 seed)).setWidth 4 = 0
  · rw [randomWord_none none, phase_rand32]
  · rw [randomWord_some none, phase_rand32]

/-- The strobes and the seed that is left. If no strobe is drawn it is always the last
lane that is strobed, since the draw before it is a multiple of four. -/
theorem strb_phase :
    ((randomWord seed).strb.setWidth 2 = phase seed - 2 ∧
      phase (randomWord seed).seed = phase seed - 2) ∨
    ((randomWord seed).strb = 0b1000 ∧ phase seed = 2 ∧
      phase (randomWord seed).seed = phase seed - 3) := by
  have two : phase (rand32 (rand32 seed)) = phase seed - 2 := by
    have counts : ∀ x : BitVec 2, x - 1 - 1 = x - 2 := by decide
    rw [phase_rand32, phase_rand32, counts]
  by_cases none : (rand32 (rand32 seed)).setWidth 4 = 0
  · right
    have low : phase (rand32 (rand32 seed)) = 0 := by
      rw [phase, ← BitVec.setWidth_setWidth_of_le _ (show 2 ≤ 4 by decide), none]
      rfl
    have start : phase seed = 2 := by
      have all : ∀ x : BitVec 2, x - 2 = 0 → x = 2 := by decide
      exact all _ (two.symm.trans low)
    have three : phase (rand32 (rand32 (rand32 seed))) = 3 := by
      rw [phase_rand32, low]
      rfl
    rw [randomWord_none none, start]
    refine ⟨?_, rfl, three⟩
    rw [mod_four, three]
    rfl
  · left
    rw [randomWord_some none]
    refine ⟨?_, two⟩
    rw [← two, phase, BitVec.setWidth_setWidth_of_le _ (show 2 ≤ 4 by decide)]

variable {seed}

theorem data_even (strobed : (randomWord seed).strb.getLsbD 0 = true) :
    (randomWord seed).data.getLsbD 0 = false := by
  have parity : ∀ x : BitVec 2, (x - 2).getLsbD 0 = true → (x - 1).getLsbD 0 = false := by decide
  rw [← getLsbD_phase _ (by decide), data_phase]
  obtain ⟨strb, -⟩ | ⟨strb, -⟩ := strb_phase seed
  · refine parity _ ?_
    rw [← strb]
    simpa using strobed
  · rw [strb] at strobed
    cases strobed

end AxiAlu.Testbench

namespace AxiAlu.TbAxi4LiteSlave
open Clocked Testbench

def seedAt (seed : BitVec 32) (n : Nat) : BitVec 32 :=
  (fun s => (randomTransaction s).2)^[n] seed

def transactionAt (seed : BitVec 32) (n : Nat) : Transaction :=
  (randomTransaction (seedAt seed n)).1

/-- What the rest of a transaction is drawn from. -/
def wordPhase (seed : BitVec 32) : BitVec 2 := phase (randomWord (rand32 seed)).seed

section Draws
variable (seed : BitVec 32)

theorem awDelay_eq : (randomTransaction seed).1.awDelay = (wordPhase seed - 1).toNat := by
  have drawn : (randomTransaction seed).1.awDelay =
      (rand32 (randomWord (rand32 seed)).seed).toNat % 4 := rfl
  rw [drawn, mod_four, phase_rand32]
  rfl

theorem wDelay_eq : (randomTransaction seed).1.wDelay = (wordPhase seed - 1 - 1).toNat := by
  have drawn : (randomTransaction seed).1.wDelay =
      (rand32 (rand32 (randomWord (rand32 seed)).seed)).toNat % 4 := rfl
  rw [drawn, mod_four, phase_rand32, phase_rand32]
  rfl

theorem respDelay_eq :
    (randomTransaction seed).1.respDelay = (wordPhase seed - 1 - 1 - 1).toNat := by
  have drawn : (randomTransaction seed).1.respDelay =
      (rand32 (rand32 (rand32 (randomWord (rand32 seed)).seed))).toNat % 4 := rfl
  rw [drawn, mod_four, phase_rand32, phase_rand32, phase_rand32]
  rfl

/-- The kind is drawn four numbers later, from the same two bits. -/
theorem phase_next : phase (randomTransaction seed).2 = wordPhase seed := by
  have drawn : (randomTransaction seed).2 =
      rand32 (rand32 (rand32 (rand32 (randomWord (rand32 seed)).seed))) := rfl
  have around : ∀ x : BitVec 2, x - 1 - 1 - 1 - 1 = x := by decide
  rw [drawn, phase_rand32, phase_rand32, phase_rand32, phase_rand32]
  exact around _

theorem isWrite_eq : (randomTransaction seed).1.isWrite = !(wordPhase seed).getLsbD 0 := by
  have low : (randomTransaction seed).2.getLsbD 0 = (wordPhase seed).getLsbD 0 :=
    (getLsbD_phase _ (by decide)).symm.trans
      (congrArg (fun x => BitVec.getLsbD x 0) (phase_next seed))
  calc
    (randomTransaction seed).1.isWrite = decide ((randomTransaction seed).2 &&& 1 = 0) := rfl
    _ = !(randomTransaction seed).2.getLsbD 0 := decide_and_one _
    _ = !(wordPhase seed).getLsbD 0 := congrArg not low

/-- Three draws lead to it from the seed, or four to a three. -/
theorem wordPhase_eq :
    wordPhase seed = phase seed - 3 ∨ phase seed = 3 ∧ wordPhase seed = 3 := by
  have counts : ∀ x : BitVec 2, x - 1 - 2 = x - 3 := by decide
  have fourth : ∀ x : BitVec 2, x - 1 = 2 → x = 3 ∧ x - 1 - 3 = 3 := by decide
  obtain ⟨-, left⟩ | ⟨-, two, left⟩ := strb_phase (rand32 seed)
  · left
    rw [wordPhase, left, phase_rand32, counts]
  · right
    rw [phase_rand32] at two left
    rw [wordPhase, left]
    exact fourth _ two

theorem addr_eq : (randomTransaction seed).1.addr.getLsbD 0 = (phase seed - 1).getLsbD 0 := by
  have drawn : (randomTransaction seed).1.addr = (rand32 seed).setWidth 6 := rfl
  rw [drawn, ← phase_rand32, getLsbD_phase _ (by decide)]
  simp

end Draws

section Offers
variable (t : Transaction) (b : Sim)

/-- Whether AW, or W, is offered once so many edges have gone by in a random write. -/
def offersAw (edges : Nat) : Bool :=
  ((Fork.edge step dut)^[edges] (writeFork t b)).bench.pins.port.sAxiAwvalid

def offersW (edges : Nat) : Bool :=
  ((Fork.edge step dut)^[edges] (writeFork t b)).bench.pins.port.sAxiWvalid

/-- The offers of a cycle stand from one falling edge to the next. -/
theorem offers_after (r : Residue) {e : Nat}
    (early : e / 2 ≤ max t.awDelay 1 ∨ e / 2 ≤ max t.wDelay 1) :
    offersAw t (idle r) e = (Stage.next^[e / 2] (.waits t.awDelay)).isOffers ∧
      offersW t (idle r) e = (Stage.next^[e / 2] (.waits t.wDelay)).isOffers := by
  have unfinished : ∀ j, j < e / 2 → ((Stage.next^[j] (.waits t.awDelay)).isDone &&
      (Stage.next^[j] (.waits t.wDelay)).isDone) = false := by
    intro j hj
    rcases early with aw | w
    · rw [Stage.next_waits (show j < max t.awDelay 1 by omega)]
      rfl
    · rw [Stage.next_waits (show j < max t.wDelay 1 by omega)]
      exact Bool.and_false _
  have cycles := edges_iterate t.addr t.data t.strb (e / 2) _ _ r unfinished
  have start : writeFork t (idle r) =
      forked t.addr t.data t.strb (.waits t.awDelay) (.waits t.wDelay) r := rfl
  rw [offersAw, offersW, start]
  obtain even | odd : e = 2 * (e / 2) ∨ e = 2 * (e / 2) + 1 := by omega
  · rw [show (Fork.edge step dut)^[e] = (Fork.edge step dut)^[2 * (e / 2)] from
      congrArg _ even, cycles]
    exact ⟨rfl, rfl⟩
  · rw [show (Fork.edge step dut)^[e] = (Fork.edge step dut)^[2 * (e / 2) + 1] from
      congrArg _ odd, Function.iterate_succ_apply', cycles]
    exact ⟨rfl, rfl⟩

/-- A process offers first at the falling edge that ends its wait. -/
theorem isLeast_offers {valid : Nat → Bool} {delay : Nat}
    (follows : ∀ e, e / 2 ≤ max delay 1 →
      valid e = (Stage.next^[e / 2] (.waits delay)).isOffers) :
    IsLeast {e | valid e = true} (2 * max delay 1) := by
  constructor
  · change valid _ = true
    rw [follows _ (by omega), show 2 * max delay 1 / 2 = max delay 1 by omega,
      Stage.next_offers]
    rfl
  · intro e offered
    by_contra early
    have waits : valid e = false := by
      rw [follows e (by omega), Stage.next_waits (by omega)]
      rfl
    exact Bool.false_ne_true (waits.symm.trans offered)

theorem offersAw_least (r : Residue) :
    IsLeast {e | offersAw t (idle r) e = true} (2 * max t.awDelay 1) :=
  isLeast_offers fun _ early => (offers_after t r (.inl early)).1

theorem offersW_least (r : Residue) :
    IsLeast {e | offersW t (idle r) e = true} (2 * max t.wDelay 1) :=
  isLeast_offers fun _ early => (offers_after t r (.inr early)).2

end Offers

theorem randomAxiTests_succ (fuel n : Nat) (seed : BitVec 32) (b : Sim) :
    randomAxiTests fuel (n + 1) seed b =
      (runTransaction fuel (randomTransaction seed).1 b).bind
        (randomAxiTests fuel n (randomTransaction seed).2) := by
  rw [randomAxiTests, randomTest_eq]
  generalize randomTransaction seed = drawn
  cases runTransaction fuel drawn.1 b with
  | none => rfl
  | some b' => rfl

theorem seedAt_succ (seed : BitVec 32) (n : Nat) :
    seedAt seed (n + 1) = seedAt (randomTransaction seed).2 n :=
  Function.iterate_succ_apply _ n seed

theorem seedAt_succ' (seed : BitVec 32) (n : Nat) :
    seedAt seed (n + 1) = (randomTransaction (seedAt seed n)).2 :=
  Function.iterate_succ_apply' _ n seed

theorem randomAxiTests_add (fuel n m : Nat) (seed : BitVec 32) (b : Sim) :
    randomAxiTests fuel (n + m) seed b =
      (randomAxiTests fuel n seed b).bind (randomAxiTests fuel m (seedAt seed n)) := by
  induction n generalizing seed b with
  | zero => rw [Nat.zero_add]; rfl
  | succ n ih =>
      rw [Nat.succ_add, randomAxiTests_succ, randomAxiTests_succ, seedAt_succ, Option.bind_assoc]
      exact congrArg _ (funext fun b' => ih _ b')

/-- Where the testbench stands before its random test number `n`. -/
theorem before_randomTest (blockFirst : Bool) (fuel : Nat) (b : Sim) (seed : BitVec 32) (n : Nat) :
    ∃ b₀ r, directed blockFirst (fuel + 9) b = some b₀ ∧
      randomAxiTests (fuel + 9) n seed b₀ = some (idle r) ∧
      ∀ more, main blockFirst (fuel + 9) (n + (more + 1)) seed b =
        (runTransaction (fuel + 9) (transactionAt seed n) (idle r)).bind fun b =>
          (randomAxiTests (fuel + 9) more (seedAt seed (n + 1)) b).map fun b =>
            b.finish "tb_axi4lite_slave" := by
  obtain ⟨r₀, first, -⟩ := directed_passes fuel blockFirst b
  obtain ⟨r, random, -⟩ := randomAxiTests_passes fuel n seed r₀
  refine ⟨idle r₀, r, first, random, fun more => ?_⟩
  rw [main_eq, first, Option.bind_some, randomAxiTests_add, random, Option.bind_some,
    randomAxiTests_succ, Option.map_bind, transactionAt, seedAt_succ']
  rfl

/-- What is drawn for a transaction, by the kind of it. -/
theorem transactionAt_drawn (seed : BitVec 32) (n : Nat) :
    ((transactionAt seed n).isWrite = true →
      (((transactionAt seed n).awDelay = 1 ∧ (transactionAt seed n).wDelay = 0 ∧
          (transactionAt seed n).respDelay = 3) ∨
        ((transactionAt seed n).awDelay = 3 ∧ (transactionAt seed n).wDelay = 2 ∧
          (transactionAt seed n).respDelay = 1)) ∧
      (transactionAt seed n).addr.getLsbD 0 = false ∧
      (transactionAt seed (n + 1)).isWrite = false) ∧
    ((transactionAt seed n).isWrite = false →
      ((transactionAt seed n).awDelay = 2 ∧ (transactionAt seed n).respDelay = 0) ∨
        ((transactionAt seed n).awDelay = 0 ∧ (transactionAt seed n).respDelay = 2)) := by
  have following : transactionAt seed (n + 1) =
      (randomTransaction (randomTransaction (seedAt seed n)).2).1 := by
    rw [transactionAt, seedAt_succ']
  have here : wordPhase (seedAt seed n) = phase (seedAt seed n) - 3 ∨
      phase (seedAt seed n) = 3 ∧ wordPhase (seedAt seed n) = 3 := wordPhase_eq _
  have next := wordPhase_eq (randomTransaction (seedAt seed n)).2
  rw [following, isWrite_eq (randomTransaction (seedAt seed n)).2]
  rw [phase_next] at next
  rw [transactionAt, isWrite_eq, awDelay_eq, wDelay_eq, respDelay_eq, addr_eq]
  generalize wordPhase (seedAt seed n) = q at here next
  generalize phase (seedAt seed n) = p at here
  generalize wordPhase (randomTransaction (seedAt seed n)).2 = q' at next
  revert p q q'
  decide

/-- In the testbench, from any power-up, the random test number `n` runs one of four kinds
of transaction, and the rest of the tests goes on from there. There are two kinds of
write: with the response held back for three edges, and with a shorter delay of the word
and of the response. A delay of one edge is none, since the falling edge after it is the
next one anyway; so AW comes with W or one cycle, two edges, after it, and never before
W. A write never has an odd address and never follows a write. There are two kinds of
read. -/
theorem random_transactions (blockFirst : Bool) (fuel : Nat) (b : Sim) (seed : BitVec 32)
    (n : Nat) :
    let t := transactionAt seed n
    ∃ b₀ bₙ, directed blockFirst (fuel + 9) b = some b₀ ∧
      randomAxiTests (fuel + 9) n seed b₀ = some bₙ ∧
      (∀ more, main blockFirst (fuel + 9) (n + (more + 1)) seed b =
        (runTransaction (fuel + 9) t bₙ).bind fun b =>
          (randomAxiTests (fuel + 9) more (seedAt seed (n + 1)) b).map fun b =>
            b.finish "tb_axi4lite_slave") ∧
      (t.isWrite = true →
        (∃ joined, (writeFork t bₙ).join step dut (fuel + 9) = some joined ∧
          runTransaction (fuel + 9) t bₙ = axiWriteRandomJoined (fuel + 9) t joined) ∧
        ((t.awDelay = 1 ∧ t.wDelay = 0 ∧ t.respDelay = 3 ∧
            IsLeast {e | offersAw t bₙ e = true} 2 ∧ IsLeast {e | offersW t bₙ e = true} 2) ∨
          (t.awDelay = 3 ∧ t.wDelay = 2 ∧ t.respDelay = 1 ∧
            IsLeast {e | offersAw t bₙ e = true} 6 ∧ IsLeast {e | offersW t bₙ e = true} 4)) ∧
        t.addr.getLsbD 0 = false ∧
        (transactionAt seed (n + 1)).isWrite = false) ∧
      (t.isWrite = false →
        runTransaction (fuel + 9) t bₙ = axiReadRandom (fuel + 9) t bₙ ∧
        ((t.awDelay = 2 ∧ t.respDelay = 0) ∨ (t.awDelay = 0 ∧ t.respDelay = 2))) := by
  intro t
  obtain ⟨b₀, r, first, random, goesOn⟩ := before_randomTest blockFirst fuel b seed n
  obtain ⟨write, read⟩ := transactionAt_drawn seed n
  refine ⟨b₀, idle r, first, random, goesOn, fun kind => ?_, fun kind => ?_⟩
  · obtain ⟨delays, even, next⟩ := write kind
    obtain ⟨awShort, wShort⟩ := randomTransaction_short (seedAt seed n)
    have joined := join_writeFork fuel t awShort wShort r
    have runs : runTransaction (fuel + 9) t (idle r) =
        ((writeFork t (idle r)).join step dut (fuel + 9)).bind
          (axiWriteRandomJoined (fuel + 9) t) := by
      rw [runTransaction, if_pos kind]
      rfl
    rw [joined, Option.bind_some] at runs
    have aw := offersAw_least t r
    have w := offersW_least t r
    refine ⟨⟨_, joined, runs⟩, ?_, even, next⟩
    obtain ⟨awDelay, wDelay, respDelay⟩ | ⟨awDelay, wDelay, respDelay⟩ := delays
    · rw [show t.awDelay = 1 from awDelay] at aw
      rw [show t.wDelay = 0 from wDelay] at w
      exact .inl ⟨awDelay, wDelay, respDelay, aw, w⟩
    · rw [show t.awDelay = 3 from awDelay] at aw
      rw [show t.wDelay = 2 from wDelay] at w
      exact .inr ⟨awDelay, wDelay, respDelay, aw, w⟩
  · rw [runTransaction, kind]
    exact ⟨rfl, read kind⟩

end AxiAlu.TbAxi4LiteSlave

namespace AxiAlu.TbAxiRegisterBank
open Clocked AxiRegisterBank Testbench

/-- Lowest bits are only cleared, and the status tells the lowest bit of the result. -/
structure Clears (e e' : Expected) : Prop where
  a : e'.a.getLsbD 0 = true → e.a.getLsbD 0 = true
  b : e'.b.getLsbD 0 = true → e.b.getLsbD 0 = true
  opcode : e'.opcode.getLsbD 0 = true → e.opcode.getLsbD 0 = true
  status : e.status = doneStatus (!e.result.getLsbD 0) →
    e'.status = doneStatus (!e'.result.getLsbD 0)

theorem Clears.refl (e : Expected) : Clears e e := ⟨id, id, id, id⟩

theorem Clears.trans {e₁ e₂ e₃ : Expected} (first : Clears e₁ e₂) (second : Clears e₂ e₃) :
    Clears e₁ e₃ :=
  ⟨first.a ∘ second.a, first.b ∘ second.b, first.opcode ∘ second.opcode,
    second.status ∘ first.status⟩

section Iterations
variable {data : BitVec 32} {strb : BitVec 4}
  (even : strb.getLsbD 0 = true → data.getLsbD 0 = false) (r : Progress)
include even

theorem applyStrbModel_clears (oldData : BitVec 32)
    (set : (applyStrbModel oldData data strb).getLsbD 0 = true) : oldData.getLsbD 0 = true := by
  rw [applyStrbModel_eq, getLsbD_applyStrb _ _ _ (by decide)] at set
  split at set
  next strobed => exact absurd set (by rw [even strobed]; decide)
  next => exact set

theorem randomOperandA_clears : Clears r.exp (randomOperandA data strb r).exp := by
  have exp : (randomOperandA data strb r).exp =
      { r.exp with a := applyStrbModel r.exp.a data strb } := rfl
  rw [exp]
  exact ⟨applyStrbModel_clears even r.exp.a, id, id, id⟩

theorem randomOperandB_clears : Clears r.exp (randomOperandB data strb r).exp := by
  have exp : (randomOperandB data strb r).exp =
      { r.exp with b := applyStrbModel r.exp.b data strb } := rfl
  rw [exp]
  exact ⟨id, applyStrbModel_clears even r.exp.b, id, id⟩

theorem randomOpcode_clears : Clears r.exp (randomOpcode data strb r).exp := by
  rw [randomOpcode_exp]
  cases strobed : strb.getLsbD 0 with
  | false => exact Clears.refl r.exp
  | true =>
      have low : (data.setWidth 4).getLsbD 0 = false := by simpa using even strobed
      exact ⟨id, id, fun set => absurd set (by rw [if_pos rfl, low]; decide), id⟩

omit even in
/-- The error of a completion is the lowest bit of the number drawn after its result. -/
theorem randomOperation_clears : Clears r.exp (randomOperation data strb r).exp := by
  have low (x : BitVec 32) : (x &&& 1).getLsbD 0 = x.getLsbD 0 := by simp
  have error : (rand32 (rand32 r.seed) &&& 1).getLsbD 0 = !(rand32 r.seed).getLsbD 0 :=
    (low _).trans (getLsbD_rand32 _)
  have exp : (randomOperation data strb r).exp =
      { r.exp with
        result := rand32 r.seed
        status := doneStatus ((rand32 (rand32 r.seed) &&& 1).getLsbD 0) } := rfl
  rw [exp]
  exact ⟨id, id, id, fun _ => congrArg doneStatus error⟩

theorem randomCase_clears (choice : Nat) : Clears r.exp (randomCase choice data strb r).exp := by
  match choice with
  | 0 | 1 => exact randomOperandA_clears even r
  | 2 | 3 => exact randomOperandB_clears even r
  | 4 => exact randomOpcode_clears even r
  | 5 => exact randomOperation_clears r
  | 6 | 7 | _ + 8 => exact Clears.refl _

end Iterations

theorem randomTest_clears (r : Progress) : Clears r.exp (randomTest r).exp := by
  rw [randomTest]
  exact randomCase_clears (fun strobed => data_even strobed)
    { r with seed := (randomWord (rand32 r.seed)).seed } _

theorem randomTests_clear (r : Progress) (n : Nat) :
    Clears r.exp (randomTest^[n] r).exp := by
  induction n with
  | zero => exact Clears.refl r.exp
  | succ n ih =>
      rw [Function.iterate_succ_apply']
      exact ih.trans (randomTest_clears _)

theorem Stands.operands {b : Sim} {regs : Registers 32} {status : BitVec 3} {result : BitVec 32}
    (stands : Stands b regs status result) :
    b.dut.operandA = regs.a ∧ b.dut.operandB = regs.b ∧ b.dut.opcode = regs.opcode := by
  rw [← stands.regs]
  exact ⟨rfl, rfl, rfl⟩

section Run
variable (blockFirst : Bool) (b : Sim) (seed : BitVec 32)

def directed : Sim :=
  directedOperations (directedRegisters (resetDut blockFirst { b with errors := 0 }))

def progressAt (n : Nat) : Progress :=
  randomTest^[n]
    { sim := directed blockFirst b
      exp :=
        { a := (dut (directed blockFirst b)).operandA, b := (dut (directed blockFirst b)).operandB
          opcode := (dut (directed blockFirst b)).opcode, result := 0, status := 0b110 }
      seed := seed }

/-- The block at the end of the testbench, when it has run `n` random tests. -/
def bankAfter (n : Nat) : AxiRegisterBank 32 := (main blockFirst n seed b).dut

theorem directed_agrees :
    Agrees (directed blockFirst b)
      { a := 0x11AA3355, b := 0xCAFEBABE, result := 0, opcode := 3, status := 0b110 } :=
  directedOperations_agrees (directedRegisters_stands (b := { b with errors := 0 }) blockFirst rfl)

theorem directed_operandB : (directed blockFirst b).dut.operandB = 0xCAFEBABE :=
  (directed_agrees blockFirst b).operands.2.1

theorem progressAt_zero : (progressAt blockFirst b seed 0).exp =
    { a := (dut (directed blockFirst b)).operandA, b := (dut (directed blockFirst b)).operandB
      opcode := (dut (directed blockFirst b)).opcode, result := 0, status := 0b110 } := rfl

theorem start_b : (progressAt blockFirst b seed 0).exp.b.getLsbD 0 = false := by
  have even : (0xCAFEBABE : BitVec 32).getLsbD 0 = false := by decide
  rw [progressAt_zero, (directed_agrees blockFirst b).ready.dut_eq, directed_operandB]
  exact even

theorem start_status : (progressAt blockFirst b seed 0).exp.status =
    doneStatus (!(progressAt blockFirst b seed 0).exp.result.getLsbD 0) := by
  have zero : (0b110 : BitVec 3) = doneStatus (!(0 : BitVec 32).getLsbD 0) := by decide
  rw [progressAt_zero]
  exact zero

theorem progressAt_agrees (n : Nat) :
    Agrees (progressAt blockFirst b seed n).sim (progressAt blockFirst b seed n).exp :=
  randomTests_sound n ((directed_agrees blockFirst b).start rfl rfl seed)

theorem progressAt_clears (n k : Nat) :
    Clears (progressAt blockFirst b seed n).exp (progressAt blockFirst b seed (n + k)).exp := by
  rw [progressAt, progressAt, Nat.add_comm n k, Function.iterate_add_apply]
  exact randomTests_clear _ k

/-- The random tests of the register bank never set the lowest bit of an operand or of the
opcode, so that of operand B is never set at all; every completion with an error has an
even result, and every other one an odd result. -/
theorem random_tests_clear_low_bits (n k : Nat) :
    ((bankAfter blockFirst b seed (n + k)).operandA.getLsbD 0 = true →
      (bankAfter blockFirst b seed n).operandA.getLsbD 0 = true) ∧
    ((bankAfter blockFirst b seed (n + k)).opcode.getLsbD 0 = true →
      (bankAfter blockFirst b seed n).opcode.getLsbD 0 = true) ∧
    (bankAfter blockFirst b seed n).operandB.getLsbD 0 = false ∧
    (bankAfter blockFirst b seed n).statusReg =
      doneStatus (!(bankAfter blockFirst b seed n).resultReg.getLsbD 0) := by
  have agrees (n : Nat) := progressAt_agrees blockFirst b seed n
  have operandA (n : Nat) : (bankAfter blockFirst b seed n).operandA =
      (progressAt blockFirst b seed n).exp.a := (agrees n).operands.1
  have operandB : (bankAfter blockFirst b seed n).operandB =
      (progressAt blockFirst b seed n).exp.b := (agrees n).operands.2.1
  have opcode (n : Nat) : (bankAfter blockFirst b seed n).opcode =
      (progressAt blockFirst b seed n).exp.opcode := (agrees n).operands.2.2
  have status : (bankAfter blockFirst b seed n).statusReg =
      (progressAt blockFirst b seed n).exp.status := (agrees n).status
  have result : (bankAfter blockFirst b seed n).resultReg =
      (progressAt blockFirst b seed n).exp.result := (agrees n).result
  have clears := progressAt_clears blockFirst b seed n k
  have fromStart : Clears (progressAt blockFirst b seed 0).exp
      (progressAt blockFirst b seed n).exp := randomTests_clear _ n
  refine ⟨?_, ?_, ?_, ?_⟩
  · rw [operandA, operandA]
    exact clears.a
  · rw [opcode, opcode]
    exact clears.opcode
  · rw [operandB, Bool.eq_false_iff]
    exact fun set => Bool.false_ne_true ((start_b blockFirst b seed).symm.trans (fromStart.b set))
  · rw [status, result]
    exact fromStart.status (start_status blockFirst b seed)

end Run

end AxiAlu.TbAxiRegisterBank
