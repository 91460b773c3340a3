import AxiAlu.Clocked.Numbered
import AxiAlu.Clocked.Sequential
import AxiAlu.Metatheory.BridgeConservation

/-!
The bridge in front of any store that is linearizable behind an AXI4-Lite port. The
store may be slow, may let reads and writes overlap and may choose, within the bounds
of what it has acknowledged and what it has been given, how many writes a read sees. The
bridge leaves it no choice: on the Avalon side the store is sequential.
-/
namespace AxiAlu
open Clocked
variable {addrWidth dataWidth : Nat} {σ : Type*}

structure Store (σ : Type*) (addrWidth dataWidth : Nat) where
  start : σ
  write : σ → Write addrWidth dataWidth → σ
  read : σ → BitVec addrWidth → BitVec dataWidth

namespace Store
variable (store : Store σ addrWidth dataWidth)

def after (ws : List (Write addrWidth dataWidth)) : σ := ws.foldl store.write store.start

/-- The store as it takes one Avalon command after another. -/
def sequential : Sequential σ (Command addrWidth dataWidth) (BitVec dataWidth) :=
  { start := store.start
    take := fun contents c => c.write?.elim contents (store.write contents)
    answer := fun contents c => c.read?.map (store.read contents) }

theorem sequential_after (cs : List (Command addrWidth dataWidth)) :
    store.sequential.after cs = store.after (cs.filterMap Command.write?) := by
  rw [after, List.foldl_filterMap]
  refine congrFun (congrFun (congrArg List.foldl ?_) _) cs
  funext contents c
  cases c <;> rfl

end Store

namespace AvalonAxi4LiteBridge
section Runs
variable (inp : Nat → Input addrWidth dataWidth)

def bAt : Nat → Option (BitVec 2) := observe (bFires inp) fun c => (inp c).mAxiBresp
def rAt : Nat → Option (BitVec dataWidth) := observe (rFires inp) fun c => (inp c).mAxiRdata

def responseAt : Nat → Option (BitVec dataWidth) :=
  observe (fun c => (machine.run inp c).avsReaddatavalid) fun c => (machine.run inp c).avsReaddata

def pairs (n t : Nat) : List (Write addrWidth dataWidth) :=
  (((history (awAt inp) t).zip (history (wAt inp) t)).take n).map Write.ofChannels

/-- The other side is a linearizable store: the word of an R handshake is what the store
shows at the address of its AR handshake after some of the first writes, among them all
that are acknowledged before and none that is not handed over. -/
def Linearizable (store : Store σ addrWidth dataWidth) : Prop :=
  ∀ c addr, rFires inp c = true →
    (history (arAt inp) c)[(history (rAt inp) c).length]? = some addr →
    ∃ n, (history (bAt inp) c).length ≤ n ∧ n ≤ (history (awAt inp) c).length ∧
      n ≤ (history (wAt inp) c).length ∧
      (inp c).mAxiRdata = store.read (store.after (pairs inp n c)) addr

end Runs

def awaitsB (s : AvalonAxi4LiteBridge addrWidth dataWidth) : Bool :=
  decide (s.stateQ = .write ∨ s.stateQ = .writeResp)
def awaitsR (s : AvalonAxi4LiteBridge addrWidth dataWidth) : Bool :=
  decide (s.stateQ = .readAddr ∨ s.stateQ = .readData)

section Steps
variable (s : AvalonAxi4LiteBridge addrWidth dataWidth) (i : Input addrWidth dataWidth)

theorem awaits_step :
    (awaitsB s).toNat + ((s.accepts i).bind Command.write?).isSome.toNat =
        (s.bFire i).toNat + (awaitsB (s.step i)).toNat ∧
      (awaitsR s).toNat + ((s.accepts i).bind Command.read?).isSome.toNat =
        (s.rFire i).toNat + (awaitsR (s.step i)).toNat := by
  have bFire : s.bFire i = (i.mAxiBvalid && decide (s.stateQ = .writeResp)) := rfl
  have rFire : s.rFire i = (i.mAxiRvalid && decide (s.stateQ = .readData)) := rfl
  rw [bFire, rFire]
  cases hs : s.stateQ with
  | idle =>
      rcases idle_cases (i := i) hs with ⟨acc, w⟩ | ⟨acc, w, r⟩ | ⟨acc, w, r⟩
      · rw [acc, step_idle_write i hs w]
        simp [awaitsB, awaitsR, Command.write?, Command.read?, hs]
      · rw [acc, step_idle_read i hs w r]
        simp [awaitsB, awaitsR, Command.write?, Command.read?, hs]
      · rw [acc, step_idle_quiet i hs w r]
        simp [awaitsB, awaitsR, hs]
  | write =>
      rw [accepts_busy (by simp [hs]), step_write i hs]
      cases hc : (s.awDoneQ || i.mAxiAwready) && (s.wDoneQ || i.mAxiWready) <;>
        simp [awaitsB, awaitsR, hs]
  | writeResp =>
      rw [accepts_busy (by simp [hs]), step_writeResp i hs]
      cases hb : i.mAxiBvalid <;> simp [awaitsB, awaitsR, hs]
  | readAddr =>
      rw [accepts_busy (by simp [hs]), step_readAddr i hs]
      cases hr : i.mAxiArready <;> simp [awaitsB, awaitsR, hs]
  | readData =>
      rw [accepts_busy (by simp [hs]), step_readData i hs]
      cases hr : i.mAxiRvalid <;> simp [awaitsB, awaitsR, hs]

theorem awaitsR_step (awaited : awaitsR (s.step i) = true) :
    (awaitsR s = true ∧ s.accepts i = none ∧ (s.step i).addrQ = s.addrQ) ∨
      s.accepts i = some (.read (s.step i).addrQ) := by
  cases hs : s.stateQ with
  | idle =>
      rcases idle_cases (i := i) hs with ⟨acc, w⟩ | ⟨acc, w, r⟩ | ⟨acc, w, r⟩
      · rw [step_idle_write i hs w] at awaited
        cases awaited
      · right
        rw [acc, step_idle_read i hs w r]
      · rw [step_idle_quiet i hs w r] at awaited
        simp [awaitsR, hs] at awaited
  | write =>
      rw [step_write i hs] at awaited
      dsimp only [awaitsR] at awaited
      split at awaited <;> cases awaited
  | writeResp =>
      rw [step_writeResp i hs] at awaited
      split at awaited <;> simp [awaitsR, hs] at awaited
  | readAddr =>
      left
      rw [accepts_busy (by simp [hs]), step_readAddr i hs]
      simp [awaitsR, hs]
  | readData =>
      left
      rw [accepts_busy (by simp [hs]), step_readData i hs]
      refine ⟨by simp [awaitsR, hs], rfl, ?_⟩
      split <;> rfl

end Steps

section Runs
variable (inp : Nat → Input addrWidth dataWidth)

theorem b_count (t : Nat) :
    (writesBefore inp t).length =
      (history (bAt inp) t).length + (awaitsB (machine.run inp t)).toNat := by
  rw [writesBefore, history_filterMap]
  refine machine.run_balances (fun s => (awaitsB s).toNat)
    (fun s i => (s.accepts i).bind Command.write?)
    (fun s i => if s.bFire i then some i.mAxiBresp else none) rfl (fun s i => ?_) inp t
  rw [(awaits_step s i).1]
  cases s.bFire i <;> rfl

theorem r_count (t : Nat) :
    (readsBefore inp t).length =
      (history (rAt inp) t).length + (awaitsR (machine.run inp t)).toNat := by
  rw [readsBefore, history_filterMap]
  refine machine.run_balances (fun s => (awaitsR s).toNat)
    (fun s i => (s.accepts i).bind Command.read?)
    (fun s i => if s.rFire i then some i.mAxiRdata else none) rfl (fun s i => ?_) inp t
  rw [(awaits_step s i).2]
  cases s.rFire i <;> rfl

theorem latest_awaited {t : Nat} (awaited : awaitsR (machine.run inp t) = true) :
    (history (acceptedAt inp) t).getLast? = some (.read (machine.run inp t).addrQ) := by
  induction t with
  | zero => cases awaited
  | succ t ih =>
      rcases awaitsR_step (machine.run inp t) (inp t) awaited with ⟨before, none, kept⟩ | enters
      · have none : acceptedAt inp t = Option.none := none
        rw [history_succ_none none, ih before]
        exact congrArg (fun addr => some (Command.read addr)) kept.symm
      · have enters : acceptedAt inp t = some _ := enters
        rw [history_succ_some enters, List.getLast?_concat]
        rfl

def served (t : Nat) : List (Command addrWidth dataWidth) :=
  if awaitsR (machine.run inp t) then (history (acceptedAt inp) t).dropLast
  else history (acceptedAt inp) t

/-- In the last state of a read nothing else is under way: every write is acknowledged,
and the address of the read is the latest that was handed over. -/
structure ReadAlone (c : Nat) : Prop where
  latest : history (acceptedAt inp) c =
    (history (acceptedAt inp) c).dropLast ++ [.read (machine.run inp c).addrQ]
  acknowledged : (history (bAt inp) c).length = (writesBefore inp c).length
  aw : history (awAt inp) c = (writesBefore inp c).map Write.addr
  w : history (wAt inp) c = (writesBefore inp c).map fun w => (w.data, w.strb)
  ar : (history (arAt inp) c)[(history (rAt inp) c).length]? = some (machine.run inp c).addrQ

theorem readAlone {c : Nat} (state : (machine.run inp c).stateQ = .readData) :
    ReadAlone inp c := by
  have awaited : awaitsR (machine.run inp c) = true := by simp [awaitsR, state]
  have noB : awaitsB (machine.run inp c) = false := by simp [awaitsB, state]
  have latest : history (acceptedAt inp) c =
      (history (acceptedAt inp) c).dropLast ++ [.read (machine.run inp c).addrQ] := by
    obtain ⟨earlier, split⟩ := List.getLast?_eq_some_iff.mp (latest_awaited inp awaited)
    rw [split, List.dropLast_concat]
  have b := b_count inp c
  have r := r_count inp c
  have aw := aw_conserved inp c
  have w := w_conserved inp c
  have ar := ar_conserved inp c
  rw [noB] at b
  rw [awaited] at r
  rw [show heldAw (machine.run inp c) = [] by simp [heldAw, mAxiAwvalid, state],
    List.append_nil] at aw
  rw [show heldW (machine.run inp c) = [] by simp [heldW, mAxiWvalid, state],
    List.append_nil] at w
  rw [show heldAr (machine.run inp c) = [] by simp [heldAr, mAxiArvalid, state],
    List.append_nil] at ar
  refine ⟨latest, b.symm, aw.symm, w.symm, ?_⟩
  have reads : readsBefore inp c =
      ((history (acceptedAt inp) c).dropLast.filterMap Command.read?) ++
        [(machine.run inp c).addrQ] := by
    rw [readsBefore, latest, List.filterMap_append, List.dropLast_concat]
    rfl
  rw [← ar, reads]
  rw [reads, List.length_append] at r
  rw [List.getElem?_append_right (by simp at r; omega)]
  simp at r
  simp [← r]

section Answers
variable {store : Store σ addrWidth dataWidth} (slave : Linearizable inp store)
include slave

/-- The word of an R handshake is that of the latest command in the order of commands. -/
theorem answered_in_order {c : Nat} (fires : rFires inp c = true) :
    store.sequential.answer (store.sequential.after (history (acceptedAt inp) c).dropLast)
        (.read (machine.run inp c).addrQ) = some (inp c).mAxiRdata := by
  have state : (machine.run inp c).stateQ = .readData := by
    have fired : rFires inp c = _ := (AvalonAxi4LiteBridge.fires inp c).2.2.2.2
    rw [fired, Bool.and_eq_true, decide_eq_true_eq] at fires
    exact fires.2
  obtain ⟨latest, acknowledged, aw, w, ar⟩ := readAlone inp state
  obtain ⟨n, atLeast, atMost, _, word⟩ := slave c _ fires ar
  have all : n = (writesBefore inp c).length := by
    rw [acknowledged] at atLeast
    rw [aw, List.length_map] at atMost
    omega
  have seen : pairs inp n c = writesBefore inp c := by
    rw [pairs, aw, w, List.zip_map', all, List.take_of_length_le (by simp), List.map_map]
    exact List.map_id _
  have writes : (history (acceptedAt inp) c).dropLast.filterMap Command.write? =
      writesBefore inp c := by
    conv_rhs => rw [writesBefore, latest, List.filterMap_append]
    simp [Command.write?]
  rw [word, seen, store.sequential_after, writes]
  rfl

theorem words_served_answer {t : Nat} (fires : rFires inp t = true)
    (ih : history (rAt inp) t = store.sequential.answers (served inp t)) :
    history (rAt inp) (t + 1) = store.sequential.answers (served inp (t + 1)) := by
  have state : (machine.run inp t).stateQ = .readData := by
    have fired := fires
    rw [(AvalonAxi4LiteBridge.fires inp t).2.2.2.2, Bool.and_eq_true, decide_eq_true_eq] at fired
    exact fired.2
  have awaited : awaitsR (machine.run inp t) = true := by simp [awaitsR, state]
  have none : acceptedAt inp t = none := accepts_busy (by simp [state])
  have settled : awaitsR (machine.run inp (t + 1)) = false := by
    have valid : (inp t).mAxiRvalid = true := by
      rw [(AvalonAxi4LiteBridge.fires inp t).2.2.2.2, Bool.and_eq_true] at fires
      exact fires.1
    change awaitsR ((machine.run inp t).step (inp t)) = false
    rw [step_readData _ state, valid]
    rfl
  have word : rAt inp t = some (inp t).mAxiRdata := if_pos fires
  simp only [served, awaited, if_true] at ih
  simp only [served, settled, Bool.false_eq_true, if_false]
  rw [history_succ_some word, ih, history_succ_none none]
  conv_rhs => rw [(readAlone inp state).latest, store.sequential.answers_concat,
    answered_in_order inp slave fires]
  rfl

omit slave in
theorem words_served_silent {t : Nat} (silent : rFires inp t = false)
    (ih : history (rAt inp) t = store.sequential.answers (served inp t)) :
    history (rAt inp) (t + 1) = store.sequential.answers (served inp (t + 1)) := by
  have numbers := (awaits_step (machine.run inp t) (inp t)).2
  have fired : (machine.run inp t).rFire (inp t) = false := silent
  have word : rAt inp t = none := if_neg (Bool.eq_false_iff.mp silent)
  have next : awaitsR (machine.run inp (t + 1)) = awaitsR ((machine.run inp t).step (inp t)) := rfl
  rw [fired, ← next] at numbers
  rw [history_succ_none word, ih]
  cases accepted : acceptedAt inp t with
  | none =>
      have accepts : (machine.run inp t).accepts (inp t) = none := accepted
      rw [accepts] at numbers
      have same : awaitsR (machine.run inp (t + 1)) = awaitsR (machine.run inp t) := by
        cases h : awaitsR (machine.run inp (t + 1)) <;> cases h' : awaitsR (machine.run inp t) <;>
          simp_all
      rw [served, served, same, history_succ_none accepted]
  | some command =>
      have accepts : (machine.run inp t).accepts (inp t) = some command := accepted
      have idle : awaitsR (machine.run inp t) = false := by
        simp [awaitsR, idle_of_accepted inp accepted]
      rw [accepts, idle] at numbers
      cases command with
      | write w =>
          have same : awaitsR (machine.run inp (t + 1)) = false := by
            cases h : awaitsR (machine.run inp (t + 1)) with
            | false => rfl
            | true => rw [h] at numbers; cases numbers
          simp only [served, idle, same, Bool.false_eq_true, if_false]
          rw [history_succ_some accepted, store.sequential.answers_concat]
          exact (List.append_nil _).symm
      | read addr =>
          have begun : awaitsR (machine.run inp (t + 1)) = true := by
            cases h : awaitsR (machine.run inp (t + 1)) with
            | false => rw [h] at numbers; cases numbers
            | true => rfl
          simp only [served, idle, begun, Bool.false_eq_true, if_false, if_true]
          rw [history_succ_some accepted, List.dropLast_concat]

/-- The R handshakes carry the answers to the commands seen through. -/
theorem words_served (t : Nat) :
    history (rAt inp) t = store.sequential.answers (served inp t) := by
  induction t with
  | zero => rfl
  | succ t ih =>
      cases fires : rFires inp t with
      | true => exact words_served_answer inp slave fires ih
      | false => exact words_served_silent inp fires ih

end Answers

theorem responses_eq (t : Nat) : history (responseAt inp) (t + 1) = history (rAt inp) t := by
  apply history_delay 1
  · intro c early
    obtain rfl : c = 0 := by omega
    rfl
  · intro c
    have valid : (machine.run inp (c + 1)).avsReaddatavalid = rFires inp c :=
      step_avsReaddatavalid _
    rw [responseAt, observe, rAt, observe, valid]
    cases fires : rFires inp c with
    | false => rfl
    | true => exact congrArg some (step_avsReaddata _ fires)

end Runs

/-- Behind any linearizable store, however slow it is and whatever the Avalon master
does, the responses are a beginning of the answers that the store gives when it takes
the accepted commands one after another, and all of them whenever the bus is free. -/
theorem sequential_over_store (inp : Nat → Input addrWidth dataWidth)
    (store : Store σ addrWidth dataWidth) (slave : Linearizable inp store) (t : Nat) :
    history (responseAt inp) (t + 1) <+:
        store.sequential.answers (history (acceptedAt inp) t) ∧
      ((machine.run inp t).avsWaitrequest = false →
        history (responseAt inp) (t + 1) =
          store.sequential.answers (history (acceptedAt inp) t)) := by
  rw [responses_eq, words_served inp slave, served]
  constructor
  · split
    next awaited =>
      obtain ⟨earlier, split⟩ := List.getLast?_eq_some_iff.mp (latest_awaited inp awaited)
      rw [split, List.dropLast_concat, store.sequential.answers_concat]
      exact List.prefix_append _ _
    next => exact List.prefix_rfl
  · intro free
    have idle : (machine.run inp t).stateQ = .idle := by simpa [avsWaitrequest] using free
    rw [if_neg (by simp [awaitsR, idle])]

def oneWord : Store (BitVec 32) 6 32 :=
  { start := 0, write := fun _ w => w.data, read := fun contents _ => contents }

/-- A store of one word is written and then read, and takes its time. -/
def writeThenRead (c : Nat) : Input 6 32 :=
  { avs :=
      { avsAddress := 8, avsRead := c == 6, avsWrite := c == 0, avsWritedata := 7
        avsByteenable := 0b1111 }
    mAxiAwready := c == 2
    mAxiWready := c == 1
    mAxiBresp := 0
    mAxiBvalid := c == 4
    mAxiArready := c == 8
    mAxiRdata := 7
    mAxiRresp := 0
    mAxiRvalid := c == 11 }

theorem sequential_over_store_one_word :
    history (responseAt writeThenRead) 13 =
      oneWord.sequential.answers (history (acceptedAt writeThenRead) 12) ∧
    history (responseAt writeThenRead) 13 = [7#32] := by
  have slave : Linearizable writeThenRead oneWord := by
    intro c addr fires asked
    have valid : c = 11 := by
      have fired : ((c == 11) && _) = true := fires
      simpa using (Bool.and_eq_true_iff.mp fired).1
    subst valid
    refine ⟨1, by decide, by decide, by decide, ?_⟩
    change 7#32 = oneWord.after (pairs writeThenRead 1 11)
    decide
  have law := sequential_over_store writeThenRead oneWord slave 12
  exact ⟨law.2 (by decide), by decide⟩

end AvalonAxi4LiteBridge
end AxiAlu
