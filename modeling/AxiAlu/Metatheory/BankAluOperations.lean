import AxiAlu.Metatheory.EngineRefinement
import Mathlib.Data.Nat.Count

/-!
Operations of the bank wired to the core, under a write port that may present any
write in any cycle. The facts are read off the engine that the two blocks refine:
which cycles an operation occupies, which operands it was taken from, and when
its outcome stands in STATUS and RESULT.
-/
namespace AxiAlu.BankAlu
open Clocked
variable {addrWidth dataWidth : Nat}

def honouredAt (inp : Nat → Input addrWidth dataWidth) (w : Nat) : Bool :=
  (machine.run inp w).honours (inp w)

def LatestHonoured (inp : Nat → Input addrWidth dataWidth) (t w : Nat) : Prop :=
  w < t ∧ honouredAt inp w = true ∧ ∀ v, w < v → v < t → honouredAt inp v = false

def outcome (s : BankAlu dataWidth) : BitVec dataWidth × Bool :=
  aluFunction s.bank.opcode s.bank.operandA s.bank.operandB

section Runs
variable (inp : Nat → Input addrWidth dataWidth)

def writes (c : Nat) : Option (Write addrWidth dataWidth) := (inp c).write?

theorem tracks_at (t : Nat) : Tracks (machine.run inp t) (Engine.runAt (writes inp) t) :=
  tracks_run inp t

theorem honouredAt_eq (w : Nat) : honouredAt inp w = Engine.startsAt (writes inp) w :=
  (tracks_at inp w).honours_eq_starts (inp w)

theorem outcome_eq (w : Nat) :
    (machine.run inp w).outcome = (Engine.runAt (writes inp) w).regs.outcome := by
  rw [← (tracks_at inp w).regs]; rfl

theorem busy_eq (t : Nat) :
    (machine.run inp t).bank.statusReg.getLsbD 0 = !((Engine.runAt (writes inp) t).wait == 0) := by
  rw [(tracks_at inp t).status, Engine.status_busy]

theorem startPulse_succ (t : Nat) :
    (machine.run inp (t + 1)).bank.startPulse = honouredAt inp t :=
  AxiRegisterBank.step_startPulse _ _

theorem done_iff (t : Nat) :
    (machine.run inp t).alu.done = true ↔ ∃ w, t = w + 3 ∧ honouredAt inp w = true := by
  rw [(tracks_at inp t).done, beq_iff_eq]
  constructor
  · intro h
    obtain ⟨w, start, hw⟩ := Engine.start_of_waiting (writes inp) (t := t) (by omega)
    exact ⟨w, by omega, (honouredAt_eq inp w).trans start⟩
  · rintro ⟨w, rfl, start⟩
    exact (Engine.wait_eq_iff (writes inp) w (j := 1) (by decide) (by decide)).mpr
      ((honouredAt_eq inp w).symm.trans start)

theorem busy_iff (t : Nat) :
    (machine.run inp t).bank.statusReg.getLsbD 0 = true ↔
      ∃ v, v < t ∧ t ≤ v + 3 ∧ honouredAt inp v = true := by
  have window := Engine.waiting_iff (writes inp) t
  simp only [← honouredAt_eq] at window
  rw [busy_eq, ← window]
  simp

/-- The latest honoured start is the last outcome that the engine has recorded,
and everything before it is the record of the cycle of that start. -/
theorem latestHonoured_of_ops {t : Nat} (h : (Engine.runAt (writes inp) t).ops ≠ []) :
    ∃ w, LatestHonoured inp t w ∧ (Engine.runAt (writes inp) t).ops =
      (Engine.runAt (writes inp) w).ops ++ [(machine.run inp w).outcome] := by
  rw [Engine.ops_eq_history] at h
  obtain ⟨w, op, hwt, hop, quiet⟩ := exists_latest h
  have starts : Engine.startsAt (writes inp) w = true := by
    by_contra hs
    simp [Engine.outcomeAt, hs] at hop
  have hop' : op = (machine.run inp w).outcome := by
    rw [outcome_eq]
    simpa [Engine.outcomeAt, starts] using hop.symm
  refine ⟨w, ⟨hwt, (honouredAt_eq inp w).trans starts, ?_⟩, ?_⟩
  · intro v hwv hvt
    have none := quiet v hwv hvt
    rw [honouredAt_eq]
    by_contra hs
    rw [Bool.not_eq_false] at hs
    simp [Engine.outcomeAt, hs] at none
  · rw [Engine.ops_eq_history, Engine.ops_eq_history, ← hop', ← history_succ_some hop]
    exact history_quiet (by omega) (fun v hv hvt => quiet v (by omega) hvt)

theorem ops_nil_iff (t : Nat) :
    (Engine.runAt (writes inp) t).ops = [] ↔ ∀ w, w < t → honouredAt inp w = false := by
  constructor
  · intro h w hwt
    rw [Engine.ops_eq_history] at h
    have grown := history_length_mono (Engine.outcomeAt (writes inp)) (show w + 1 ≤ t from hwt)
    rw [h, history_succ, List.length_append] at grown
    rw [honouredAt_eq]
    by_contra hs
    rw [Bool.not_eq_false] at hs
    simp [Engine.outcomeAt, hs] at grown
  · intro quiet
    by_contra h
    obtain ⟨w, ⟨hwt, start, _⟩, _⟩ := latestHonoured_of_ops inp h
    rw [quiet w hwt] at start
    cases start

theorem done_before_next_start {v w : Nat} (hvw : v < w) (hv : honouredAt inp v = true)
    (hw : honouredAt inp w = true) :
    v + 3 < w ∧ (machine.run inp (v + 3)).alu.done = true := by
  have free := Engine.wait_zero_of_startsAt (writes inp) ((honouredAt_eq inp w).symm.trans hw)
  refine ⟨?_, (done_iff inp (v + 3)).mpr ⟨v, rfl, hv⟩⟩
  by_contra near
  exact (Engine.waiting_iff (writes inp) w).mpr
    ⟨v, hvw, by omega, (honouredAt_eq inp v).symm.trans hv⟩ free

/-- Starts and completions balance against the busy bit, cycle by cycle. -/
theorem busy_balance (t : Nat) :
    ((machine.run inp (t + 1)).bank.statusReg.getLsbD 0).toNat +
        (machine.run inp t).alu.done.toNat =
      ((machine.run inp t).bank.statusReg.getLsbD 0).toNat + (honouredAt inp t).toNat := by
  have bound := Engine.wait_le (writes inp) t
  change (Engine.runAt (writes inp) t).wait ≤ 3 at bound
  have law := Engine.wait_succ (writes inp) t
  rw [busy_eq, busy_eq, (tracks_at inp t).done, honouredAt_eq, law]
  cases hs : Engine.startsAt (writes inp) t with
  | true => simp [Engine.wait_zero_of_startsAt (writes inp) hs]
  | false =>
      obtain h | h | h | h : (Engine.runAt (writes inp) t).wait = 3 ∨
        (Engine.runAt (writes inp) t).wait = 2 ∨ (Engine.runAt (writes inp) t).wait = 1 ∨
        (Engine.runAt (writes inp) t).wait = 0 := by omega
      all_goals simp [h]

theorem count_honoured (t : Nat) :
    Nat.count (fun c => honouredAt inp c = true) t =
      Nat.count (fun c => (machine.run inp c).alu.done = true) t +
        ((machine.run inp t).bank.statusReg.getLsbD 0).toNat := by
  induction t with
  | zero =>
      have idle : (machine.run inp 0).bank.statusReg.getLsbD 0 = false := busy_eq inp 0
      rw [Nat.count_zero, Nat.count_zero, idle]
      rfl
  | succ t ih =>
      have balance := busy_balance inp t
      rw [Nat.count_succ, Nat.count_succ, ih]
      cases hh : honouredAt inp t <;> cases hd : (machine.run inp t).alu.done <;>
        simp only [hh, hd, Bool.toNat_true, Bool.toNat_false, if_true, Bool.false_eq_true,
          if_false] at balance ⊢ <;> omega

theorem status_cases (t : Nat) :
    let s := machine.run inp t
    let e := Engine.runAt (writes inp) t
    (e.wait ≠ 0 ∧ s.bank.statusReg = 0b001#3) ∨
      (e.wait = 0 ∧ e.ops = [] ∧ s.bank.statusReg = 0b000#3) ∨
      (e.wait = 0 ∧ ∃ ops op, e.ops = ops ++ [op] ∧
        s.bank.statusReg = BitVec.ofBool op.2 ++ 0b10#2) := by
  intro s e
  have status : s.bank.statusReg = e.status := (tracks_at inp t).status
  by_cases hw : e.wait = 0
  · rcases List.eq_nil_or_concat e.ops with none | ⟨ops, op, hops⟩
    · exact Or.inr (Or.inl ⟨hw, none, status.trans (e.status_never hw none)⟩)
    · have last : e.ops.getLast? = some op := by
        rw [hops, List.concat_eq_append, List.getLast?_concat]
      exact Or.inr (Or.inr ⟨hw, ops, op, by rw [hops, List.concat_eq_append],
        status.trans (e.status_published hw last)⟩)
  · exact Or.inl ⟨hw, status.trans (e.status_waiting hw)⟩

theorem ops_of_waiting {t : Nat} (waiting : (Engine.runAt (writes inp) t).wait ≠ 0) :
    (Engine.runAt (writes inp) t).ops ≠ [] := by
  intro none
  obtain ⟨v, hvt, _, start⟩ := (Engine.waiting_iff (writes inp) t).mp waiting
  have quiet := (ops_nil_iff inp t).mp none v hvt
  rw [honouredAt_eq, start] at quiet
  cases quiet

theorem outcome_of_done {t : Nat} (done : (machine.run inp t).bank.statusReg.getLsbD 1 = true) :
    ∃ w, LatestHonoured inp t w ∧
      ((machine.run inp t).bank.resultReg, (machine.run inp t).bank.statusReg.getLsbD 2) =
        (machine.run inp w).outcome := by
  have result : _ = (Engine.runAt (writes inp) t).result := (tracks_at inp t).result
  rcases status_cases inp t with ⟨_, hs⟩ | ⟨_, _, hs⟩ | ⟨hw, ops, op, hops, hs⟩
  · simp [hs] at done
  · simp [hs] at done
  · obtain ⟨w, latest, hops'⟩ := latestHonoured_of_ops inp (t := t) (by simp [hops])
    have hop : op = (machine.run inp w).outcome := by
      have both := hops.symm.trans hops'
      simpa using (List.append_inj' both rfl).2
    have error : (machine.run inp t).bank.statusReg.getLsbD 2 = op.2 := by
      cases he : op.2 <;> simp [hs, he]
    rw [Engine.result_published _ hw, hops, published, List.getLast?_concat] at result
    refine ⟨w, latest, ?_⟩
    rw [error, result, ← hop]
    rfl

/-- With BUSY set, the operation in progress is the last one recorded and the
result is that of the one before it. -/
theorem result_of_busy {t : Nat} (busy : (machine.run inp t).bank.statusReg.getLsbD 0 = true) :
    (machine.run inp t).bank.statusReg.getLsbD 1 = false ∧
      (machine.run inp t).bank.statusReg.getLsbD 2 = false ∧
      ∃ w, LatestHonoured inp t w ∧
        ((∃ v, LatestHonoured inp w v ∧ v + 3 < w ∧
            (machine.run inp (v + 3)).alu.done = true ∧
            (machine.run inp t).bank.resultReg = (machine.run inp v).outcome.1) ∨
          ((∀ v, v < w → honouredAt inp v = false) ∧
            (machine.run inp t).bank.resultReg = 0)) := by
  have result : _ = (Engine.runAt (writes inp) t).result := (tracks_at inp t).result
  rcases status_cases inp t with ⟨hw, hs⟩ | ⟨_, _, hs⟩ | ⟨_, _, op, _, hs⟩
  · obtain ⟨w, latest, hops⟩ := latestHonoured_of_ops inp (ops_of_waiting inp hw)
    rw [Engine.result_waiting _ hw, hops, List.dropLast_concat] at result
    refine ⟨by simp [hs], by simp [hs], w, latest, ?_⟩
    by_cases before : (Engine.runAt (writes inp) w).ops = []
    · refine Or.inr ⟨(ops_nil_iff inp w).mp before, ?_⟩
      rw [result, before]
      rfl
    · obtain ⟨v, latest', hops'⟩ := latestHonoured_of_ops inp before
      obtain ⟨gap, done⟩ := done_before_next_start inp latest'.1 latest'.2.1 latest.2.1
      refine Or.inl ⟨v, latest', gap, done, ?_⟩
      rw [result, hops', published, List.getLast?_concat]
      rfl
  · simp [hs] at busy
  · cases he : op.2 <;> simp [hs, he] at busy

theorem status_values (t : Nat) :
    (machine.run inp t).bank.statusReg = 0b000#3 ∨ (machine.run inp t).bank.statusReg = 0b001#3 ∨
      (machine.run inp t).bank.statusReg = 0b010#3 ∨
      (machine.run inp t).bank.statusReg = 0b110#3 := by
  rcases status_cases inp t with ⟨_, hs⟩ | ⟨_, _, hs⟩ | ⟨_, _, op, _, hs⟩
  · exact Or.inr (Or.inl hs)
  · exact Or.inl hs
  · cases he : op.2 <;> simp [hs, he]

theorem status_zero_iff (t : Nat) :
    (machine.run inp t).bank.statusReg = 0b000#3 ↔ ∀ w, w < t → honouredAt inp w = false := by
  rw [← ops_nil_iff]
  rcases status_cases inp t with ⟨hw, hs⟩ | ⟨_, none, hs⟩ | ⟨_, ops, op, hops, hs⟩
  · exact iff_of_false (by simp [hs]) (ops_of_waiting inp hw)
  · exact iff_of_true hs none
  · refine iff_of_false ?_ (by simp [hops])
    cases he : op.2 <;> simp [hs, he]

/-- BUSY counts the stages of an operation: one of them is up, or none. -/
theorem busy_eq_stages (t : Nat) :
    ((machine.run inp t).bank.statusReg.getLsbD 0).toNat =
      (machine.run inp t).bank.startPulse.toNat + (machine.run inp t).alu.busy.toNat +
        (machine.run inp t).alu.done.toNat := by
  have tracks := tracks_at inp t
  have bound := tracks.bound
  rw [busy_eq, tracks.start, tracks.busy, tracks.done]
  obtain h | h | h | h : (Engine.runAt (writes inp) t).wait = 3 ∨
    (Engine.runAt (writes inp) t).wait = 2 ∨ (Engine.runAt (writes inp) t).wait = 1 ∨
    (Engine.runAt (writes inp) t).wait = 0 := by omega
  all_goals simp [h]

theorem startPulse_iff (t : Nat) :
    (machine.run inp t).bank.startPulse = true ↔ ∃ w, t = w + 1 ∧ honouredAt inp w = true := by
  constructor
  · intro pulse
    cases t with
    | zero => cases pulse
    | succ w => exact ⟨w, rfl, (startPulse_succ inp w).symm.trans pulse⟩
  · rintro ⟨w, rfl, hon⟩
    exact (startPulse_succ inp w).trans hon

/-- A start write is honoured unless one was in the three cycles before it. -/
theorem honouredAt_iff {t : Nat} (isStart : (inp t).write?.any Write.isStart = true) :
    honouredAt inp t = true ↔ ∀ v, v < t → t ≤ v + 3 → honouredAt inp v = false := by
  have free : honouredAt inp t = true ↔
      (machine.run inp t).bank.statusReg.getLsbD 0 = false := by
    rw [honouredAt, honours_eq, isStart, Bool.true_and, Bool.not_eq_true']
  rw [free, ← Bool.not_eq_true, busy_iff]
  constructor
  · intro none v hvt htv
    by_contra hon
    exact none ⟨v, hvt, htv, by simpa using hon⟩
  · rintro none ⟨v, hvt, htv, hon⟩
    rw [none v hvt htv] at hon
    cases hon

end Runs

/-- Whatever is written in its later cycles, an operation publishes the ALU
function of the operands that the bank held when its start was presented; until
then the result of the operation before it stays in place. -/
theorem published_outcome_coherent (inp : Nat → Input addrWidth dataWidth) (t : Nat) :
    let s := machine.run inp t
    (s.bank.statusReg.getLsbD 1 = true →
      ∃ w, LatestHonoured inp t w ∧
        (s.bank.resultReg, s.bank.statusReg.getLsbD 2) = (machine.run inp w).outcome) ∧
    (s.bank.statusReg.getLsbD 0 = true →
      s.bank.statusReg.getLsbD 1 = false ∧ s.bank.statusReg.getLsbD 2 = false ∧
      ∃ w, LatestHonoured inp t w ∧
        ((∃ v, LatestHonoured inp w v ∧ v + 3 < w ∧
            (machine.run inp (v + 3)).alu.done = true ∧
            s.bank.resultReg = (machine.run inp v).outcome.1) ∨
          ((∀ v, v < w → honouredAt inp v = false) ∧ s.bank.resultReg = 0))) ∧
    (s.bank.statusReg = 0b000#3 ∨ s.bank.statusReg = 0b001#3 ∨
      s.bank.statusReg = 0b010#3 ∨ s.bank.statusReg = 0b110#3) ∧
    (s.bank.statusReg = 0b000#3 ↔ ∀ w, w < t → honouredAt inp w = false) := by
  intro s
  exact ⟨outcome_of_done inp, result_of_busy inp, status_values inp t, status_zero_iff inp t⟩

/-- One busy bit for two blocks: BUSY is set in exactly the three cycles in which
one of start pulse, core busy and core done is up, so no start pulse and no start
write ever meets an operation in progress or its completion. -/
theorem busy_lock (inp : Nat → Input addrWidth dataWidth) (t : Nat) :
    let s := machine.run inp t
    (s.bank.statusReg.getLsbD 0 = true ↔
      s.bank.startPulse.toNat + s.alu.busy.toNat + s.alu.done.toNat = 1) ∧
    (s.bank.statusReg.getLsbD 0 = false →
      s.bank.startPulse = false ∧ s.alu.busy = false ∧ s.alu.done = false) ∧
    (s.bank.startPulse = true → s.alu.busy = false) ∧
    (honouredAt inp t = true → s.alu.done = false ∧
      (machine.run inp (t + 1)).bank.statusReg = 0b001#3) ∧
    (s.bank.startPulse = true ↔ ∃ w, t = w + 1 ∧ honouredAt inp w = true) ∧
    (s.alu.done = true ↔ ∃ w, t = w + 3 ∧ honouredAt inp w = true) ∧
    Nat.count (fun c => honouredAt inp c = true) t =
      Nat.count (fun c => (machine.run inp c).alu.done = true) t +
        (s.bank.statusReg.getLsbD 0).toNat ∧
    ((inp t).write?.any Write.isStart = true →
      (honouredAt inp t = true ↔ ∀ v, v < t → t ≤ v + 3 → honouredAt inp v = false) ∧
      (honouredAt inp t = false → s.step (inp t) = s.step { inp t with wrEn := false })) := by
  intro s
  have stages : (s.bank.statusReg.getLsbD 0).toNat =
      s.bank.startPulse.toNat + s.alu.busy.toNat + s.alu.done.toNat := busy_eq_stages inp t
  refine ⟨?_, ?_, ?_, ?_, startPulse_iff inp t, done_iff inp t, count_honoured inp t, ?_⟩
  · rw [← stages]
    exact Bool.toNat_eq_one.symm
  · intro free
    have none : (s.bank.statusReg.getLsbD 0).toNat = 0 := Bool.toNat_eq_zero.mpr free
    refine ⟨?_, ?_, ?_⟩ <;> apply Bool.toNat_eq_zero.mp <;> omega
  · intro pulse
    have one : s.bank.startPulse.toNat = 1 := Bool.toNat_eq_one.mpr pulse
    have atMost := Bool.toNat_le (s.bank.statusReg.getLsbD 0)
    apply Bool.toNat_eq_zero.mp
    omega
  · intro hon
    have idle := Engine.wait_zero_of_startsAt (writes inp) ((honouredAt_eq inp t).symm.trans hon)
    have quiet : s.alu.done = false := (tracks_at inp t).done.trans (by rw [idle]; rfl)
    refine ⟨quiet, ?_⟩
    rw [Machine.run_succ]
    exact ((s.bank_step_running (inp t) quiet).1).trans (if_pos hon)
  · intro isStart
    refine ⟨honouredAt_iff inp isStart, fun refused => ?_⟩
    have bank_eq := AxiRegisterBank.step_refused s.bank (s.bankInput (inp t)) isStart refused
    exact congrArg (fun bank => BankAlu.mk bank (s.alu.step s.aluInput)) bank_eq

end AxiAlu.BankAlu
