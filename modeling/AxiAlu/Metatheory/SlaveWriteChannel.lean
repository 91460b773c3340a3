import AxiAlu.Clocked.History
import AxiAlu.Metatheory.SlaveSteps

/-!
The write channel of the slave under any master. The addresses and the words that
were taken in are the ones that were pulsed to the bank, followed by at most one
each that is still buffered; responses follow pulses one for one. The read
channel and its inputs appear nowhere in the argument.
-/
namespace AxiAlu.Axi4LiteSlave
open Clocked
variable {addrWidth dataWidth : Nat}

section Observations
variable (inp : Nat → Input addrWidth dataWidth)

def awAt : Nat → Option (BitVec addrWidth) :=
  observe (fun c => (machine.run inp c).awFire (inp c)) (fun c => (inp c).sAxiAwaddr)

def wAt : Nat → Option (BitVec dataWidth × BitVec (dataWidth / 8)) :=
  observe (fun c => (machine.run inp c).wFire (inp c))
    (fun c => ((inp c).sAxiWdata, (inp c).sAxiWstrb))

def pulseAt : Nat → Option (BitVec addrWidth × BitVec dataWidth × BitVec (dataWidth / 8)) :=
  observe (fun c => (machine.run inp c).wrEn)
    (fun c => ((machine.run inp c).wrAddr, (machine.run inp c).wrData, (machine.run inp c).wrStrb))

def bAt : Nat → Option (BitVec 2) :=
  observe (fun c => (machine.run inp c).bFire (inp c)) (fun c => (machine.run inp c).sAxiBresp)

def pairAt : Nat → Option (BitVec addrWidth × BitVec dataWidth × BitVec (dataWidth / 8)) :=
  observe (fun c => (machine.run inp c).pairs)
    (fun c => ((machine.run inp c).awaddrQ, (machine.run inp c).wdataQ,
      (machine.run inp c).wstrbQ))

/-- A pair is pulsed in the cycle after it leaves the buffers. -/
theorem pulseAt_succ (c : Nat) : pulseAt inp (c + 1) = pairAt inp c := by
  have step_eq : machine.run inp (c + 1) = (machine.run inp c).step (inp c) := rfl
  simp only [pulseAt, pairAt, observe, step_eq, step_wrEn, step_wrAddr, step_wrData, step_wrStrb]
  cases (machine.run inp c).pairs <;> rfl

theorem history_pulseAt_succ (t : Nat) :
    history (pulseAt inp) (t + 1) = history (pairAt inp) t := by
  apply history_delay 1
  · intro c hc
    obtain rfl : c = 0 := by omega
    rfl
  · exact pulseAt_succ inp

end Observations

/-- Addresses: the buffer holds one from its handshake until it is paired. -/
theorem aw_conserved (inp : Nat → Input addrWidth dataWidth) (t : Nat) :
    history (awAt inp) t = (history (pairAt inp) t).map Prod.fst ++
      (if (machine.run inp t).awV then [(machine.run inp t).awaddrQ] else []) := by
  rw [pairAt, history_observe_map]
  apply Machine.run_conserves machine
    (fun s : Axi4LiteSlave addrWidth dataWidth => if s.awV then [s.awaddrQ] else [])
    (fun s i => if s.awFire i then some i.sAxiAwaddr else none)
    (fun s _ => if s.pairs then some s.awaddrQ else none) rfl
  intro s i
  change _ = _ ++ if (s.step i).awV then [(s.step i).awaddrQ] else []
  rw [step_awV, step_awaddrQ]
  cases hv : s.awV with
  | true => cases hp : s.pairs <;> simp [awFire, sAxiAwready, hv]
  | false => cases hf : s.awFire i <;> simp [pairs, hv]

/-- Words: as for the addresses, with the strobes in step with the data. -/
theorem w_conserved (inp : Nat → Input addrWidth dataWidth) (t : Nat) :
    history (wAt inp) t = (history (pairAt inp) t).map Prod.snd ++
      (if (machine.run inp t).wV then
        [((machine.run inp t).wdataQ, (machine.run inp t).wstrbQ)] else []) := by
  rw [pairAt, history_observe_map]
  apply Machine.run_conserves machine
    (fun s : Axi4LiteSlave addrWidth dataWidth => if s.wV then [(s.wdataQ, s.wstrbQ)] else [])
    (fun s i => if s.wFire i then some (i.sAxiWdata, i.sAxiWstrb) else none)
    (fun s _ => if s.pairs then some (s.wdataQ, s.wstrbQ) else none) rfl
  intro s i
  change _ = _ ++ if (s.step i).wV then [((s.step i).wdataQ, (s.step i).wstrbQ)] else []
  rw [step_wV, step_wdataQ, step_wstrbQ]
  cases hv : s.wV with
  | true => cases hp : s.pairs <;> simp [wFire, sAxiWready, hv]
  | false => cases hf : s.wFire i <;> simp [pairs, hv]

/-- Responses: one is pending from the pairing of its write until its handshake. -/
theorem b_conserved (inp : Nat → Input addrWidth dataWidth) (t : Nat) :
    (history (pairAt inp) t).length =
      (history (bAt inp) t).length + (machine.run inp t).bvalidQ.toNat := by
  have conserves := Machine.run_conserves machine
    (fun s : Axi4LiteSlave addrWidth dataWidth => if s.bvalidQ then [s.sAxiBresp] else [])
    (fun s _ => if s.pairs then some s.sAxiBresp else none)
    (fun s i => if s.bFire i then some s.sAxiBresp else none) rfl ?_ inp t
  · have lengths := congrArg List.length conserves
    rw [List.length_append] at lengths
    rw [pairAt, length_history_observe _ _ (fun c => (machine.run inp c).sAxiBresp)]
    refine lengths.trans (congrArg₂ _ rfl ?_)
    cases (machine.run inp t).bvalidQ <;> rfl
  · intro s i
    change _ = _ ++ if (s.step i).bvalidQ then [(s.step i).sAxiBresp] else []
    rw [step_bvalidQ]
    cases hb : s.bvalidQ <;> cases hr : i.sAxiBready <;> cases hp : s.pairs <;>
      simp_all [pairs, bFire, sAxiBvalid, sAxiBresp]

section Pulses
variable (inp : Nat → Input addrWidth dataWidth) (t : Nat)

/-- What has been pulsed up to a cycle is the zip of the first addresses and words. -/
theorem pulsed_eq_zip :
    history (pulseAt inp) (t + 1) =
      ((history (awAt inp) t).take (history (pulseAt inp) (t + 1)).length).zip
        ((history (wAt inp) t).take (history (pulseAt inp) (t + 1)).length) := by
  have pulsed := history_pulseAt_succ inp t
  have aw := pulsed ▸ aw_conserved inp t
  have w := pulsed ▸ w_conserved inp t
  have awTaken : (history (awAt inp) t).take (history (pulseAt inp) (t + 1)).length =
      (history (pulseAt inp) (t + 1)).map Prod.fst := by
    rw [aw, List.take_left' (List.length_map _)]
  have wTaken : (history (wAt inp) t).take (history (pulseAt inp) (t + 1)).length =
      (history (pulseAt inp) (t + 1)).map Prod.snd := by
    rw [w, List.take_left' (List.length_map _)]
  rw [awTaken, wTaken, ← List.unzip_fst, ← List.unzip_snd, List.zip_unzip]

theorem aw_count :
    (history (awAt inp) t).length =
      (history (pulseAt inp) (t + 1)).length + (machine.run inp t).awV.toNat := by
  rw [aw_conserved, history_pulseAt_succ, List.length_append, List.length_map]
  cases (machine.run inp t).awV <;> rfl

theorem w_count :
    (history (wAt inp) t).length =
      (history (pulseAt inp) (t + 1)).length + (machine.run inp t).wV.toNat := by
  rw [w_conserved, history_pulseAt_succ, List.length_append, List.length_map]
  cases (machine.run inp t).wV <;> rfl

theorem b_count :
    (history (pulseAt inp) (t + 1)).length =
      (history (bAt inp) t).length + (machine.run inp t).bvalidQ.toNat := by
  rw [history_pulseAt_succ, b_conserved]

theorem acknowledged_le :
    (history (bAt inp) (t + 1)).length ≤ (history (pulseAt inp) (t + 1)).length := by
  have handed := length_history_observe_succ
    (fun c => (machine.run inp c).bFire (inp c)) (fun c => (machine.run inp c).sAxiBresp) t
  change (history (bAt inp) (t + 1)).length = (history (bAt inp) t).length + _ at handed
  have offered : ((machine.run inp t).bFire (inp t)).toNat ≤ (machine.run inp t).bvalidQ.toNat := by
    simp only [bFire, sAxiBvalid]
    cases (machine.run inp t).bvalidQ <;> simp [Bool.toNat_le]
  have pending := b_count inp t
  omega

end Pulses

theorem pulse_with_response (inp : Nat → Input addrWidth dataWidth) (t : Nat) :
    (machine.run inp t).wrEn = true → (machine.run inp t).bvalidQ = true := by
  apply Machine.run_invariant machine (fun s => s.wrEn = true → s.bvalidQ = true)
  · exact fun h => h
  · intro s i _ pulse
    change (s.step i).wrEn = true at pulse
    change (s.step i).bvalidQ = true
    rw [step_wrEn] at pulse
    rw [step_bvalidQ, pulse]
    rfl

/-- No write is lost, repeated or mispaired: in every cycle the pulses are the
pairwise zip of the first addresses and words taken in, at most one of each is
still to be pulsed, and exactly the pulse under response is unanswered. -/
theorem write_channel_conservation (inp : Nat → Input addrWidth dataWidth) (t : Nat) :
    let AW := history (awAt inp) t
    let W := history (wAt inp) t
    let P := history (pulseAt inp) (t + 1)
    let B := history (bAt inp) t
    P = (AW.take P.length).zip (W.take P.length) ∧
      (P.length ≤ AW.length ∧ AW.length ≤ P.length + 1) ∧
      (P.length ≤ W.length ∧ W.length ≤ P.length + 1) ∧
      P.length = B.length + (if (machine.run inp t).sAxiBvalid then 1 else 0) ∧
      ¬ ((machine.run inp t).wrEn = true ∧ (machine.run inp (t + 1)).wrEn = true) := by
  intro AW W P B
  have aw : AW.length = P.length + _ := aw_count inp t
  have w : W.length = P.length + _ := w_count inp t
  have b : P.length = B.length + _ := b_count inp t
  refine ⟨pulsed_eq_zip inp t, ?_, ?_, ?_, ?_⟩
  · have bound := Bool.toNat_le (machine.run inp t).awV
    omega
  · have bound := Bool.toNat_le (machine.run inp t).wV
    omega
  · rw [b]
    change _ + (machine.run inp t).bvalidQ.toNat = _ + if (machine.run inp t).bvalidQ then 1 else 0
    cases (machine.run inp t).bvalidQ <;> rfl
  · rintro ⟨pulse, pulse'⟩
    have pending := pulse_with_response inp t pulse
    rw [Machine.run_succ] at pulse'
    have paired : (machine.run inp t).pairs = true := (step_wrEn _ _).symm.trans pulse'
    simp [pairs, pending] at paired

end AxiAlu.Axi4LiteSlave
