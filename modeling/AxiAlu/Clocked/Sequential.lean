import AxiAlu.Clocked.History

/-!
Objects that take one command after another and answer some of them, and clocked
blocks that serve such an object with a fixed latency. The histories of such a block
are those of the object: time only shows in how the commands are spread over the
cycles.
-/
namespace Clocked
variable {S C A : Type*}

/-- What a command does to the state and what it is answered, if it is. -/
structure Sequential (S C A : Type*) where
  start : S
  take : S → C → S
  answer : S → C → Option A

namespace Sequential
variable (Q : Sequential S C A)

def after (cs : List C) : S := cs.foldl Q.take Q.start

def answersFrom : S → List C → List A
  | _, [] => []
  | s, c :: cs => (Q.answer s c).toList ++ answersFrom (Q.take s c) cs

def answers (cs : List C) : List A := Q.answersFrom Q.start cs

theorem answersFrom_append (s : S) (cs cs' : List C) :
    Q.answersFrom s (cs ++ cs') = Q.answersFrom s cs ++ Q.answersFrom (cs.foldl Q.take s) cs' := by
  induction cs generalizing s with
  | nil => rfl
  | cons c cs ih =>
      simp only [List.cons_append, answersFrom, ih, List.foldl_cons, List.append_assoc]

theorem answers_concat (cs : List C) (c : C) :
    Q.answers (cs ++ [c]) = Q.answers cs ++ (Q.answer (Q.after cs) c).toList := by
  rw [answers, answersFrom_append]
  exact congrArg (Q.answers cs ++ ·) (List.append_nil _)

/-- Commands may be replaced by others that do and are answered the same. -/
theorem answersFrom_map {f : C → C} (taken : ∀ s c, Q.take s (f c) = Q.take s c) {cs : List C}
    (answered : ∀ c ∈ cs, ∀ s, Q.answer s (f c) = Q.answer s c) (s : S) :
    Q.answersFrom s (cs.map f) = Q.answersFrom s cs := by
  induction cs generalizing s with
  | nil => rfl
  | cons c cs ih =>
      have rest := ih (fun c' member => answered c' (List.mem_cons_of_mem c member))
      rw [List.map_cons, answersFrom, answersFrom, answered c List.mem_cons_self, taken, rest]

/-- A stream in which each command is answered `d` cycles after it has the answers of
the commands as its history. -/
theorem history_answers {commands : Nat → Option C} {responses : Nat → Option A} (d : Nat)
    (early : ∀ c, c < d → responses c = none)
    (late : ∀ c, responses (c + d) =
      (commands c).bind (Q.answer (Q.after (history commands c)))) (t : Nat) :
    history responses (t + d) = Q.answers (history commands t) := by
  rw [history_delay d early late]
  induction t with
  | zero => rfl
  | succ t ih =>
      rw [history_succ, ih]
      cases command : commands t with
      | none =>
          rw [history_succ_none command]
          exact List.append_nil _
      | some c =>
          rw [history_succ_some command, answers_concat]
          rfl

end Sequential
end Clocked
