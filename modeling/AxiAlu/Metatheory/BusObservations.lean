import AxiAlu.Metatheory.AcceleratorTimeline
import AxiAlu.Metatheory.Lockstep

/-!
What an Avalon master can observe of a run of the peripheral: the commands that
are accepted and the words that come back. Both agree with the accelerator's, so
the timeline of the accelerator is the timeline of the bus.
-/
namespace AxiAlu.AvalonAxi4LiteAlu
open Clocked
variable {addrWidth dataWidth : Nat}

section Observations
variable (inp : Nat → Avalon addrWidth dataWidth)

/-- The command accepted in a cycle, one without waitrequest. -/
def acceptedAt (c : Nat) : Option (Command addrWidth dataWidth) :=
  if (machine.run inp c).avsWaitrequest then none else (inp c).command

def writesBefore (t : Nat) : List (Write addrWidth dataWidth) :=
  (history (acceptedAt inp) t).filterMap Command.write?
def readsBefore (t : Nat) : List (BitVec addrWidth) :=
  (history (acceptedAt inp) t).filterMap Command.read?

def responseAt : Nat → Option (BitVec dataWidth) :=
  observe (fun c => (machine.run inp c).avsReaddatavalid)
    (fun c => (machine.run inp c).avsReaddata)

/-- A start command was accepted exactly four cycles before `n`, and it is the
latest command accepted before `n`. -/
def JustStarted (n : Nat) : Prop :=
  ∃ m w, n = m + 4 ∧ acceptedAt inp m = some (.write w) ∧ w.isStart = true ∧
    (history (acceptedAt inp) n).getLast? = some (.write w)

theorem waitrequest_eq (c : Nat) :
    (machine.run inp c).avsWaitrequest = decide ((Accelerator.runAt inp c).phase ≠ .idle) :=
  (refines_run inp c).phase.waitrequest

theorem acceptedAt_eq : acceptedAt inp = Accelerator.acceptedAt inp := by
  funext c
  rw [acceptedAt, waitrequest_eq, Accelerator.acceptedAt, Accelerator.accepts]
  by_cases idle : (Accelerator.runAt inp c).phase = .idle <;> simp [idle]

theorem writesBefore_eq (t : Nat) : writesBefore inp t = Accelerator.writesBefore inp t := by
  rw [writesBefore, acceptedAt_eq]
  rfl

theorem responseAt_eq (c : Nat) : responseAt inp c = (Accelerator.runAt inp c).response :=
  (refines_run inp c).response.symm

theorem justStarted_iff (n : Nat) : JustStarted inp n ↔ Accelerator.JustStarted inp n := by
  rw [JustStarted, acceptedAt_eq]
  constructor
  · rintro ⟨m, w, hn, accepted, isStart, _⟩
    exact ⟨m, w, hn, accepted, isStart⟩
  · rintro ⟨m, w, hn, accepted, isStart⟩
    refine ⟨m, w, hn, accepted, isStart, history_getLast? (by omega) accepted ?_⟩
    intro d hmd hdn
    cases accepted' : Accelerator.acceptedAt inp d with
    | none => rfl
    | some command =>
        have gap := Accelerator.accepted_spacing inp accepted accepted' hmd
        omega

/-- The engine of the accelerator stands for bank and core in every cycle. -/
theorem tracks_at (c : Nat) :
    BankAlu.Tracks (machine.run inp c).bankAlu (Accelerator.runAt inp c).engine :=
  (refines_run inp c).engine

end Observations

end AxiAlu.AvalonAxi4LiteAlu
