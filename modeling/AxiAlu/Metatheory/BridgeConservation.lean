import AxiAlu.Clocked.History
import AxiAlu.Metatheory.BridgeSteps
import AxiAlu.Spec.Accelerator

/-!
Transactions of the bridge against any AXI slave. The handshakes of a channel
carry the accepted commands in order, with at most the latest command still to be
carried, and every command has its own handshakes and no others before the next
one is accepted. No assumption is made on when or whether the slave answers.
-/
namespace AxiAlu

namespace AvalonAxi4LiteBridge
open Clocked
variable {addrWidth dataWidth : Nat}

def accepts (s : AvalonAxi4LiteBridge addrWidth dataWidth) (i : Input addrWidth dataWidth) :
    Option (Command addrWidth dataWidth) :=
  if s.avsWaitrequest then none else i.avs.command

section Observations
variable (inp : Nat → Input addrWidth dataWidth)

def acceptedAt (c : Nat) : Option (Command addrWidth dataWidth) :=
  (machine.run inp c).accepts (inp c)

def awFires (c : Nat) : Bool := (machine.run inp c).awFire (inp c)
def wFires (c : Nat) : Bool := (machine.run inp c).wFire (inp c)
def bFires (c : Nat) : Bool := (machine.run inp c).bFire (inp c)
def arFires (c : Nat) : Bool := (machine.run inp c).arFire (inp c)
def rFires (c : Nat) : Bool := (machine.run inp c).rFire (inp c)

def awAt : Nat → Option (BitVec addrWidth) :=
  observe (awFires inp) (fun c => (machine.run inp c).mAxiAwaddr)
def wAt : Nat → Option (BitVec dataWidth × BitVec (dataWidth / 8)) :=
  observe (wFires inp) (fun c => ((machine.run inp c).mAxiWdata, (machine.run inp c).mAxiWstrb))
def arAt : Nat → Option (BitVec addrWidth) :=
  observe (arFires inp) (fun c => (machine.run inp c).mAxiAraddr)

def writesBefore (t : Nat) : List (Write addrWidth dataWidth) :=
  (history (acceptedAt inp) t).filterMap Command.write?
def readsBefore (t : Nat) : List (BitVec addrWidth) :=
  (history (acceptedAt inp) t).filterMap Command.read?

end Observations

section Accepts
variable {s : AvalonAxi4LiteBridge addrWidth dataWidth} {i : Input addrWidth dataWidth}

theorem accepts_busy (h : s.stateQ ≠ .idle) : s.accepts i = none := by
  simp [accepts, avsWaitrequest, h]

theorem accepts_idle (h : s.stateQ = .idle) : s.accepts i = i.avs.command := by
  simp [accepts, avsWaitrequest, h]

theorem idle_cases (h : s.stateQ = .idle) :
    (s.accepts i = some (.write
        { addr := i.avs.avsAddress, data := i.avs.avsWritedata, strb := i.avs.avsByteenable }) ∧
      i.avs.avsWrite = true) ∨
    (s.accepts i = some (.read i.avs.avsAddress) ∧
      i.avs.avsWrite = false ∧ i.avs.avsRead = true) ∨
    (s.accepts i = none ∧ i.avs.avsWrite = false ∧ i.avs.avsRead = false) := by
  rw [accepts_idle h, Avalon.command]
  cases hw : i.avs.avsWrite <;> cases hr : i.avs.avsRead <;> simp

end Accepts

def heldAw (s : AvalonAxi4LiteBridge addrWidth dataWidth) : List (BitVec addrWidth) :=
  if s.mAxiAwvalid then [s.mAxiAwaddr] else []
def heldW (s : AvalonAxi4LiteBridge addrWidth dataWidth) :
    List (BitVec dataWidth × BitVec (dataWidth / 8)) :=
  if s.mAxiWvalid then [(s.mAxiWdata, s.mAxiWstrb)] else []
def heldAr (s : AvalonAxi4LiteBridge addrWidth dataWidth) : List (BitVec addrWidth) :=
  if s.mAxiArvalid then [s.mAxiAraddr] else []

/-- One edge balances the three request channels: a command enters with its address,
its word or both held, and what is handed over is dropped in the same cycle. -/
structure Balanced (s : AvalonAxi4LiteBridge addrWidth dataWidth)
    (i : Input addrWidth dataWidth) : Prop where
  aw : heldAw s ++ (((s.accepts i).bind Command.write?).map Write.addr).toList =
    (if s.awFire i then some s.mAxiAwaddr else none).toList ++ heldAw (s.step i)
  w : heldW s ++ (((s.accepts i).bind Command.write?).map fun w => (w.data, w.strb)).toList =
    (if s.wFire i then some (s.mAxiWdata, s.mAxiWstrb) else none).toList ++ heldW (s.step i)
  ar : heldAr s ++ ((s.accepts i).bind Command.read?).toList =
    (if s.arFire i then some s.mAxiAraddr else none).toList ++ heldAr (s.step i)

theorem balanced (s : AvalonAxi4LiteBridge addrWidth dataWidth)
    (i : Input addrWidth dataWidth) : Balanced s i := by
  cases hs : s.stateQ with
  | idle =>
      rcases idle_cases (i := i) hs with ⟨acc, w⟩ | ⟨acc, w, r⟩ | ⟨acc, w, r⟩
      · have entered := step_idle_write i hs w
        constructor <;> rw [acc, entered]
        · simp [heldAw, awFire, mAxiAwvalid, mAxiAwaddr, Command.write?, hs]
        · simp [heldW, wFire, mAxiWvalid, mAxiWdata, mAxiWstrb, Command.write?, hs]
        · simp [heldAr, arFire, mAxiArvalid, Command.read?, hs]
      · have entered := step_idle_read i hs w r
        constructor <;> rw [acc, entered]
        · simp [heldAw, awFire, mAxiAwvalid, Command.write?, hs]
        · simp [heldW, wFire, mAxiWvalid, Command.write?, hs]
        · simp [heldAr, arFire, mAxiArvalid, mAxiAraddr, Command.read?, hs]
      · have stayed := step_idle_quiet i hs w r
        constructor <;> rw [acc, stayed]
        · simp [heldAw, awFire, mAxiAwvalid, hs]
        · simp [heldW, wFire, mAxiWvalid, hs]
        · simp [heldAr, arFire, mAxiArvalid, hs]
  | write =>
      have none := accepts_busy (i := i) (s := s) (by simp [hs])
      constructor <;> rw [none, step_write i hs]
      · cases hd : s.awDoneQ <;> cases hr : i.mAxiAwready <;>
          simp [heldAw, awFire, mAxiAwvalid, mAxiAwaddr, hs, hd, hr]
      · cases hd : s.wDoneQ <;> cases hr : i.mAxiWready <;>
          simp [heldW, wFire, mAxiWvalid, mAxiWdata, mAxiWstrb, hs, hd, hr]
      · cases hc : (s.awDoneQ || i.mAxiAwready) && (s.wDoneQ || i.mAxiWready) <;>
          simp [heldAr, arFire, mAxiArvalid, hs]
  | writeResp =>
      have none := accepts_busy (i := i) (s := s) (by simp [hs])
      constructor <;> rw [none, step_writeResp i hs] <;> cases i.mAxiBvalid <;>
        simp [heldAw, heldW, heldAr, awFire, wFire, arFire, mAxiAwvalid, mAxiWvalid,
          mAxiArvalid, hs]
  | readAddr =>
      have none := accepts_busy (i := i) (s := s) (by simp [hs])
      constructor <;> rw [none, step_readAddr i hs] <;> cases hr : i.mAxiArready <;>
        simp [heldAw, heldW, heldAr, awFire, wFire, arFire, mAxiAwvalid, mAxiWvalid,
          mAxiArvalid, mAxiAraddr, hs, hr]
  | readData =>
      have none := accepts_busy (i := i) (s := s) (by simp [hs])
      constructor <;> rw [none, step_readData i hs] <;> cases i.mAxiRvalid <;>
        simp [heldAw, heldW, heldAr, awFire, wFire, arFire, mAxiAwvalid, mAxiWvalid,
          mAxiArvalid, hs]

section Sequences
variable (inp : Nat → Input addrWidth dataWidth)

theorem aw_conserved (t : Nat) :
    (writesBefore inp t).map Write.addr =
      history (awAt inp) t ++ heldAw (machine.run inp t) := by
  rw [writesBefore, history_filterMap, history_map]
  exact Machine.run_conserves machine heldAw
    (fun s i => ((s.accepts i).bind Command.write?).map Write.addr)
    (fun s i => if s.awFire i then some s.mAxiAwaddr else none) rfl
    (fun s i => (balanced s i).aw) inp t

theorem w_conserved (t : Nat) :
    (writesBefore inp t).map (fun w => (w.data, w.strb)) =
      history (wAt inp) t ++ heldW (machine.run inp t) := by
  rw [writesBefore, history_filterMap, history_map]
  exact Machine.run_conserves machine heldW
    (fun s i => ((s.accepts i).bind Command.write?).map fun w => (w.data, w.strb))
    (fun s i => if s.wFire i then some (s.mAxiWdata, s.mAxiWstrb) else none) rfl
    (fun s i => (balanced s i).w) inp t

theorem ar_conserved (t : Nat) :
    readsBefore inp t = history (arAt inp) t ++ heldAr (machine.run inp t) := by
  rw [readsBefore, history_filterMap]
  exact Machine.run_conserves machine heldAr
    (fun s i => (s.accepts i).bind Command.read?)
    (fun s i => if s.arFire i then some s.mAxiAraddr else none) rfl
    (fun s i => (balanced s i).ar) inp t

/-- While a command is being carried out, its parameters are in the registers. -/
structure LatestHeld (t : Nat) : Prop where
  write : (machine.run inp t).stateQ = .write →
    (history (acceptedAt inp) t).getLast? = some (.write
      { addr := (machine.run inp t).addrQ
        data := (machine.run inp t).writedataQ
        strb := (machine.run inp t).byteenableQ })
  read : (machine.run inp t).stateQ = .readAddr →
    (history (acceptedAt inp) t).getLast? = some (.read (machine.run inp t).addrQ)

theorem latestHeld (t : Nat) : LatestHeld inp t := by
  induction t with
  | zero => exact ⟨fun h => (nomatch h), fun h => (nomatch h)⟩
  | succ t ih =>
      have step_eq : machine.run inp (t + 1) = (machine.run inp t).step (inp t) := rfl
      cases hs : (machine.run inp t).stateQ with
      | idle =>
          rcases idle_cases (i := inp t) hs with ⟨acc, w⟩ | ⟨acc, w, r⟩ | ⟨acc, w, r⟩
          · have enters : acceptedAt inp t = some _ := acc
            constructor
            · intro _
              rw [history_succ_some enters, List.getLast?_concat, step_eq, step_idle_write _ hs w]
            · intro h
              rw [step_eq, step_idle_write _ hs w] at h
              cases h
          · have enters : acceptedAt inp t = some _ := acc
            constructor
            · intro h
              rw [step_eq, step_idle_read _ hs w r] at h
              cases h
            · intro _
              rw [history_succ_some enters, List.getLast?_concat, step_eq,
                step_idle_read _ hs w r]
          · constructor <;> intro h <;> rw [step_eq, step_idle_quiet _ hs w r] at h <;>
              exact nomatch hs.symm.trans h
      | write =>
          have none : acceptedAt inp t = none := accepts_busy (by simp [hs])
          rw [step_write _ hs] at step_eq
          constructor
          · intro _
            rw [history_succ_none none, ih.write hs, step_eq]
          · intro h
            rw [step_eq] at h
            dsimp only at h
            split at h <;> cases h
      | writeResp =>
          rw [step_writeResp _ hs] at step_eq
          constructor <;> intro h <;> rw [step_eq] at h <;> split at h <;>
            simp [hs] at h
      | readAddr =>
          have none : acceptedAt inp t = none := accepts_busy (by simp [hs])
          rw [step_readAddr _ hs] at step_eq
          constructor
          · intro h
            rw [step_eq] at h
            dsimp only at h
            split at h <;> cases h
          · intro _
            rw [history_succ_none none, ih.read hs, step_eq]
      | readData =>
          rw [step_readData _ hs] at step_eq
          constructor <;> intro h <;> rw [step_eq] at h <;> split at h <;>
            simp [hs] at h

/-- An address or a word that is still held is that of the latest command. -/
theorem heldAw_latest (t : Nat) :
    heldAw (machine.run inp t) = [] ∨
      ∃ w, (history (acceptedAt inp) t).getLast? = some (.write w) ∧
        heldAw (machine.run inp t) = [w.addr] := by
  cases hv : (machine.run inp t).mAxiAwvalid with
  | false => exact Or.inl (by simp [heldAw, hv])
  | true =>
      have writing : (machine.run inp t).stateQ = .write := by
        simp only [mAxiAwvalid, Bool.and_eq_true, beq_iff_eq] at hv
        exact hv.1
      exact Or.inr ⟨_, (latestHeld inp t).write writing, by simp [heldAw, hv, mAxiAwaddr]⟩

theorem heldW_latest (t : Nat) :
    heldW (machine.run inp t) = [] ∨
      ∃ w, (history (acceptedAt inp) t).getLast? = some (.write w) ∧
        heldW (machine.run inp t) = [(w.data, w.strb)] := by
  cases hv : (machine.run inp t).mAxiWvalid with
  | false => exact Or.inl (by simp [heldW, hv])
  | true =>
      have writing : (machine.run inp t).stateQ = .write := by
        simp only [mAxiWvalid, Bool.and_eq_true, beq_iff_eq] at hv
        exact hv.1
      exact Or.inr ⟨_, (latestHeld inp t).write writing,
        by simp [heldW, hv, mAxiWdata, mAxiWstrb]⟩

theorem heldAr_latest (t : Nat) :
    heldAr (machine.run inp t) = [] ∨
      ∃ addr, (history (acceptedAt inp) t).getLast? = some (.read addr) ∧
        heldAr (machine.run inp t) = [addr] := by
  cases hv : (machine.run inp t).mAxiArvalid with
  | false => exact Or.inl (by simp [heldAr, hv])
  | true =>
      have asking : (machine.run inp t).stateQ = .readAddr := by
        simpa [mAxiArvalid] using hv
      exact Or.inr ⟨_, (latestHeld inp t).read asking, by simp [heldAr, hv, mAxiAraddr]⟩

theorem held_idle {s : AvalonAxi4LiteBridge addrWidth dataWidth}
    (free : s.avsWaitrequest = false) : heldAw s = [] ∧ heldW s = [] ∧ heldAr s = [] := by
  have idle : s.stateQ = .idle := by simpa [avsWaitrequest] using free
  simp [heldAw, heldW, heldAr, mAxiAwvalid, mAxiWvalid, mAxiArvalid, idle]

end Sequences

section Windows
variable (inp : Nat → Input addrWidth dataWidth)

/-- The handshakes of a write since its acceptance, by the state of the bridge. -/
def WriteProgress (n t : Nat) : Prop :=
  Never (arFires inp) n t ∧ Never (rFires inp) n t ∧
  match (machine.run inp t).stateQ with
  | .write =>
      Seen (awFires inp) n t (machine.run inp t).awDoneQ ∧
        Seen (wFires inp) n t (machine.run inp t).wDoneQ ∧ Never (bFires inp) n t
  | .writeResp =>
      ∃ a w, OnceAt (awFires inp) n t a ∧ OnceAt (wFires inp) n t w ∧ Never (bFires inp) n t
  | .idle =>
      ∃ a w b, OnceAt (awFires inp) n t a ∧ OnceAt (wFires inp) n t w ∧
        OnceAt (bFires inp) n t b ∧ a < b ∧ w < b
  | _ => False

/-- The handshakes of a read since its acceptance, by the state of the bridge. -/
def ReadProgress (n t : Nat) : Prop :=
  Never (awFires inp) n t ∧ Never (wFires inp) n t ∧ Never (bFires inp) n t ∧
  match (machine.run inp t).stateQ with
  | .readAddr => Never (arFires inp) n t ∧ Never (rFires inp) n t
  | .readData => ∃ a, OnceAt (arFires inp) n t a ∧ Never (rFires inp) n t
  | .idle => ∃ a r, OnceAt (arFires inp) n t a ∧ OnceAt (rFires inp) n t r ∧ a < r
  | _ => False

/-- Each state of the bridge takes part in the handshakes of its own channels only. -/
theorem fires (t : Nat) :
    awFires inp t = (decide ((machine.run inp t).stateQ = .write) &&
        !(machine.run inp t).awDoneQ && (inp t).mAxiAwready) ∧
      wFires inp t = (decide ((machine.run inp t).stateQ = .write) &&
        !(machine.run inp t).wDoneQ && (inp t).mAxiWready) ∧
      bFires inp t = ((inp t).mAxiBvalid && decide ((machine.run inp t).stateQ = .writeResp)) ∧
      arFires inp t = (decide ((machine.run inp t).stateQ = .readAddr) && (inp t).mAxiArready) ∧
      rFires inp t = ((inp t).mAxiRvalid && decide ((machine.run inp t).stateQ = .readData)) :=
  ⟨rfl, rfl, rfl, rfl, rfl⟩

theorem idle_silent {t : Nat} (h : (machine.run inp t).stateQ = .idle) :
    awFires inp t = false ∧ wFires inp t = false ∧ bFires inp t = false ∧
      arFires inp t = false ∧ rFires inp t = false := by
  simpa [h] using fires inp t

theorem write_fires {t : Nat} (h : (machine.run inp t).stateQ = .write) :
    awFires inp t = (!(machine.run inp t).awDoneQ && (inp t).mAxiAwready) ∧
      wFires inp t = (!(machine.run inp t).wDoneQ && (inp t).mAxiWready) ∧
      bFires inp t = false ∧ arFires inp t = false ∧ rFires inp t = false := by
  simpa [h] using fires inp t

theorem writeResp_fires {t : Nat} (h : (machine.run inp t).stateQ = .writeResp) :
    awFires inp t = false ∧ wFires inp t = false ∧ bFires inp t = (inp t).mAxiBvalid ∧
      arFires inp t = false ∧ rFires inp t = false := by
  simpa [h] using fires inp t

theorem readAddr_fires {t : Nat} (h : (machine.run inp t).stateQ = .readAddr) :
    awFires inp t = false ∧ wFires inp t = false ∧ bFires inp t = false ∧
      arFires inp t = (inp t).mAxiArready ∧ rFires inp t = false := by
  simpa [h] using fires inp t

theorem readData_fires {t : Nat} (h : (machine.run inp t).stateQ = .readData) :
    awFires inp t = false ∧ wFires inp t = false ∧ bFires inp t = false ∧
      arFires inp t = false ∧ rFires inp t = (inp t).mAxiRvalid := by
  simpa [h] using fires inp t

theorem idle_of_accepted {n : Nat} {c : Command addrWidth dataWidth}
    (h : acceptedAt inp n = some c) : (machine.run inp n).stateQ = .idle := by
  by_contra busy
  rw [acceptedAt, accepts_busy busy] at h
  cases h

theorem writeProgress_start {n : Nat} {w : Write addrWidth dataWidth}
    (h : acceptedAt inp n = some (.write w)) : WriteProgress inp n (n + 1) := by
  have idle := idle_of_accepted inp h
  obtain ⟨aw, wd, b, ar, r⟩ := idle_silent inp idle
  have write : (inp n).avs.avsWrite = true := by
    rcases idle_cases (i := inp n) idle with ⟨_, w⟩ | ⟨acc, _, _⟩ | ⟨acc, _, _⟩
    · exact w
    · exact nomatch h.symm.trans acc
    · exact nomatch h.symm.trans acc
  have entered := step_idle_write (inp n) idle write
  rw [← show machine.run inp (n + 1) = (machine.run inp n).step (inp n) from rfl] at entered
  refine ⟨(never_self _ n).extend ar, (never_self _ n).extend r, ?_⟩
  rw [entered]
  exact ⟨(never_self _ n).extend aw, (never_self _ n).extend wd, (never_self _ n).extend b⟩

theorem readProgress_start {n : Nat} {addr : BitVec addrWidth}
    (h : acceptedAt inp n = some (.read addr)) : ReadProgress inp n (n + 1) := by
  have idle := idle_of_accepted inp h
  obtain ⟨aw, wd, b, ar, r⟩ := idle_silent inp idle
  have read : (inp n).avs.avsWrite = false ∧ (inp n).avs.avsRead = true := by
    rcases idle_cases (i := inp n) idle with ⟨acc, _⟩ | ⟨_, w, r⟩ | ⟨acc, _, _⟩
    · exact nomatch h.symm.trans acc
    · exact ⟨w, r⟩
    · exact nomatch h.symm.trans acc
  have entered := step_idle_read (inp n) idle read.1 read.2
  rw [← show machine.run inp (n + 1) = (machine.run inp n).step (inp n) from rfl] at entered
  refine ⟨(never_self _ n).extend aw, (never_self _ n).extend wd, (never_self _ n).extend b, ?_⟩
  rw [entered]
  exact ⟨(never_self _ n).extend ar, (never_self _ n).extend r⟩

theorem idle_stays {t : Nat} (idle : (machine.run inp t).stateQ = .idle)
    (none : acceptedAt inp t = none) : (machine.run inp (t + 1)).stateQ = .idle := by
  rcases idle_cases (i := inp t) idle with ⟨acc, _⟩ | ⟨acc, _, _⟩ | ⟨_, w, r⟩
  · exact nomatch none.symm.trans acc
  · exact nomatch none.symm.trans acc
  · rw [Machine.run_succ]
    change ((machine.run inp t).step (inp t)).stateQ = _
    rw [step_idle_quiet _ idle w r]
    exact idle

/-- A write goes forward through its states without a foreign handshake. -/
theorem writeProgress_succ {n t : Nat} (hn : n ≤ t) (h : WriteProgress inp n t)
    (none : acceptedAt inp t = none) : WriteProgress inp n (t + 1) := by
  obtain ⟨noAr, noR, progress⟩ := h
  have step_eq : machine.run inp (t + 1) = (machine.run inp t).step (inp t) := rfl
  cases hs : (machine.run inp t).stateQ with
  | idle =>
      obtain ⟨aw, wd, b, ar, r⟩ := idle_silent inp hs
      rw [hs] at progress
      obtain ⟨a, w, b', ha, hw, hb, hab, hwb⟩ := progress
      refine ⟨noAr.extend ar, noR.extend r, ?_⟩
      rw [idle_stays inp hs none]
      exact ⟨a, w, b', ha.extend aw, hw.extend wd, hb.extend b, hab, hwb⟩
  | write =>
      obtain ⟨aw, wd, b, ar, r⟩ := write_fires inp hs
      rw [hs] at progress
      obtain ⟨seenAw, seenW, noB⟩ := progress
      have seenAw' := seenAw.extend hn aw
      have seenW' := seenW.extend hn wd
      refine ⟨noAr.extend ar, noR.extend r, ?_⟩
      rw [step_eq, step_write _ hs]
      cases hc : ((machine.run inp t).awDoneQ || (inp t).mAxiAwready) &&
          ((machine.run inp t).wDoneQ || (inp t).mAxiWready) with
      | true =>
          obtain ⟨hca, hcw⟩ := Bool.and_eq_true_iff.mp hc
          rw [hca] at seenAw'
          rw [hcw] at seenW'
          obtain ⟨a, ha⟩ := seenAw'
          obtain ⟨w, hw⟩ := seenW'
          exact ⟨a, w, ha, hw, noB.extend b⟩
      | false => exact ⟨seenAw', seenW', noB.extend b⟩
  | writeResp =>
      obtain ⟨aw, wd, b, ar, r⟩ := writeResp_fires inp hs
      rw [hs] at progress
      obtain ⟨a, w, ha, hw, noB⟩ := progress
      refine ⟨noAr.extend ar, noR.extend r, ?_⟩
      rw [step_eq, step_writeResp _ hs]
      cases hb : (inp t).mAxiBvalid with
      | true =>
          exact ⟨a, w, t, ha.extend aw, hw.extend wd, noB.once hn (b.trans hb), ha.2.1, hw.2.1⟩
      | false =>
          simp only [Bool.false_eq_true, if_false, hs]
          exact ⟨a, w, ha.extend aw, hw.extend wd, noB.extend (b.trans hb)⟩
  | readAddr => rw [hs] at progress; exact progress.elim
  | readData => rw [hs] at progress; exact progress.elim

theorem readProgress_succ {n t : Nat} (hn : n ≤ t) (h : ReadProgress inp n t)
    (none : acceptedAt inp t = none) : ReadProgress inp n (t + 1) := by
  obtain ⟨noAw, noW, noB, progress⟩ := h
  have step_eq : machine.run inp (t + 1) = (machine.run inp t).step (inp t) := rfl
  cases hs : (machine.run inp t).stateQ with
  | idle =>
      obtain ⟨aw, wd, b, ar, r⟩ := idle_silent inp hs
      rw [hs] at progress
      obtain ⟨a, r', ha, hr, har⟩ := progress
      refine ⟨noAw.extend aw, noW.extend wd, noB.extend b, ?_⟩
      rw [idle_stays inp hs none]
      exact ⟨a, r', ha.extend ar, hr.extend r, har⟩
  | readAddr =>
      obtain ⟨aw, wd, b, ar, r⟩ := readAddr_fires inp hs
      rw [hs] at progress
      obtain ⟨noAr, noR⟩ := progress
      refine ⟨noAw.extend aw, noW.extend wd, noB.extend b, ?_⟩
      rw [step_eq, step_readAddr _ hs]
      cases ha : (inp t).mAxiArready with
      | true => exact ⟨t, noAr.once hn (ar.trans ha), noR.extend r⟩
      | false => exact ⟨noAr.extend (ar.trans ha), noR.extend r⟩
  | readData =>
      obtain ⟨aw, wd, b, ar, r⟩ := readData_fires inp hs
      rw [hs] at progress
      obtain ⟨a, ha, noR⟩ := progress
      refine ⟨noAw.extend aw, noW.extend wd, noB.extend b, ?_⟩
      rw [step_eq, step_readData _ hs]
      cases hr : (inp t).mAxiRvalid with
      | true => exact ⟨a, t, ha.extend ar, noR.once hn (r.trans hr), ha.2.1⟩
      | false =>
          simp only [Bool.false_eq_true, if_false, hs]
          exact ⟨a, ha.extend ar, noR.extend (r.trans hr)⟩
  | write => rw [hs] at progress; exact progress.elim
  | writeResp => rw [hs] at progress; exact progress.elim

/-- Progress is kept until the next command is accepted. -/
theorem progress_until {P : Nat → Prop} {n : Nat} (start : P (n + 1))
    (succ : ∀ t, n ≤ t → P t → acceptedAt inp t = none → P (t + 1)) {t : Nat} (hnt : n < t)
    (none : ∀ m, n < m → m < t → acceptedAt inp m = none) : P t := by
  induction t with
  | zero => omega
  | succ t ih =>
      by_cases hn : n = t
      · exact hn ▸ start
      · exact succ t (by omega) (ih (by omega) fun m h₁ h₂ => none m h₁ (by omega))
          (none t (by omega) (by omega))

/-- The handshakes of a write between its acceptance and the next one. -/
theorem handshakes_of_write {n n' : Nat} {w : Write addrWidth dataWidth}
    (accepted : acceptedAt inp n = some (.write w))
    (idle : (machine.run inp n').stateQ = .idle) (later : n < n')
    (none : ∀ m, n < m → m < n' → acceptedAt inp m = none) :
    ∃ a w b, OnceAt (awFires inp) n n' a ∧ OnceAt (wFires inp) n n' w ∧
      OnceAt (bFires inp) n n' b ∧ a < b ∧ w < b ∧
      Never (arFires inp) n n' ∧ Never (rFires inp) n n' := by
  obtain ⟨noAr, noR, progress⟩ := progress_until inp (writeProgress_start inp accepted)
    (fun t h₁ h₂ h₃ => writeProgress_succ inp h₁ h₂ h₃) later none
  rw [idle] at progress
  obtain ⟨a, w, b, ha, hw, hb, hab, hwb⟩ := progress
  exact ⟨a, w, b, ha, hw, hb, hab, hwb, noAr, noR⟩

/-- The handshakes of a read between its acceptance and the next one. -/
theorem handshakes_of_read {n n' : Nat} {addr : BitVec addrWidth}
    (accepted : acceptedAt inp n = some (.read addr))
    (idle : (machine.run inp n').stateQ = .idle) (later : n < n')
    (none : ∀ m, n < m → m < n' → acceptedAt inp m = none) :
    ∃ a r, OnceAt (arFires inp) n n' a ∧ OnceAt (rFires inp) n n' r ∧ a < r ∧
      Never (awFires inp) n n' ∧ Never (wFires inp) n n' ∧ Never (bFires inp) n n' := by
  obtain ⟨noAw, noW, noB, progress⟩ := progress_until inp (readProgress_start inp accepted)
    (fun t h₁ h₂ h₃ => readProgress_succ inp h₁ h₂ h₃) later none
  rw [idle] at progress
  obtain ⟨a, r, ha, hr, har⟩ := progress
  exact ⟨a, r, ha, hr, har, noAw, noW, noB⟩

end Windows

/-- Against any AXI slave, and whatever the Avalon master does: the channels carry
the accepted commands in order and once each, with at most the latest command
incomplete; a command has its own handshakes and no others before the next one is
accepted; a response pulse is the R handshake of the cycle before, with its data;
and Avalon inputs that meet waitrequest change nothing. -/
theorem bridge_conserves_transactions (inp : Nat → Input addrWidth dataWidth) :
    (∀ t, ∃ pendingAw pendingW pendingAr,
      (writesBefore inp t).map Write.addr = history (awAt inp) t ++ pendingAw ∧
      (writesBefore inp t).map (fun w => (w.data, w.strb)) = history (wAt inp) t ++ pendingW ∧
      readsBefore inp t = history (arAt inp) t ++ pendingAr ∧
      (pendingAw = [] ∨ ∃ w, (history (acceptedAt inp) t).getLast? = some (.write w) ∧
        pendingAw = [w.addr]) ∧
      (pendingW = [] ∨ ∃ w, (history (acceptedAt inp) t).getLast? = some (.write w) ∧
        pendingW = [(w.data, w.strb)]) ∧
      (pendingAr = [] ∨ ∃ addr, (history (acceptedAt inp) t).getLast? = some (.read addr) ∧
        pendingAr = [addr]) ∧
      ((machine.run inp t).avsWaitrequest = false →
        pendingAw = [] ∧ pendingW = [] ∧ pendingAr = [])) ∧
    (∀ n n' c c', acceptedAt inp n = some c → acceptedAt inp n' = some c' → n < n' →
      (∀ m, n < m → m < n' → acceptedAt inp m = none) →
      match c with
      | .write _ => ∃ a w b, OnceAt (awFires inp) n n' a ∧ OnceAt (wFires inp) n n' w ∧
          OnceAt (bFires inp) n n' b ∧ a < b ∧ w < b ∧
          Never (arFires inp) n n' ∧ Never (rFires inp) n n'
      | .read _ => ∃ a r, OnceAt (arFires inp) n n' a ∧ OnceAt (rFires inp) n n' r ∧ a < r ∧
          Never (awFires inp) n n' ∧ Never (wFires inp) n n' ∧ Never (bFires inp) n n') ∧
    ((machine.run inp 0).avsReaddatavalid = false ∧
      ∀ t, (machine.run inp (t + 1)).avsReaddatavalid = rFires inp t ∧
        (rFires inp t = true → (machine.run inp (t + 1)).avsReaddata = (inp t).mAxiRdata)) ∧
    (∀ t avs, (machine.run inp t).avsWaitrequest = true →
      (machine.run inp t).step { inp t with avs := avs } = machine.run inp (t + 1)) := by
  refine ⟨fun t => ?_, ?_, ⟨rfl, fun t => ?_⟩, ?_⟩
  · exact ⟨_, _, _, aw_conserved inp t, w_conserved inp t, ar_conserved inp t,
      heldAw_latest inp t, heldW_latest inp t, heldAr_latest inp t, held_idle⟩
  · intro n n' c c' accepted accepted' later none
    have idle := idle_of_accepted inp accepted'
    cases c with
    | write w => exact handshakes_of_write inp accepted idle later none
    | read addr => exact handshakes_of_read inp accepted idle later none
  · exact ⟨step_avsReaddatavalid _, step_avsReaddata _⟩
  · intro t avs busy
    exact step_ignores_avalon (inp t) busy avs

end AvalonAxi4LiteBridge
end AxiAlu
