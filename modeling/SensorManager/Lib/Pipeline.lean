import Mathlib.Data.List.Basic

/-!
# Questions and answers in order

A queue of questions, one worker that takes them from it, a queue of answers
and one sender.  Beside the queues stands what has passed through them: what has
been asked, what has become of each question that is dealt with, and which
answers have been handed out.
-/

namespace SensorManager

/-- `working` is the question the worker has taken, and `sending` the answer the
sender has. -/
structure Pipeline (ε κ α : Type) where
  asked : List κ := []
  questions : List κ := []
  working : Option κ := none
  finished : List (κ × Except ε α) := []
  answers : List α := []
  sending : Option α := none
  handed : List α := []

namespace Pipeline

variable {ε κ α β : Type}

/-- The questions without those whose execution has thrown.  The outcomes belong
to the first questions. -/
def remaining : List κ → List (Except ε α) → List κ
  | asked, [] => asked
  | [], _ :: _ => []
  | question :: asked, .ok _ :: outcomes => question :: remaining asked outcomes
  | _ :: asked, .error _ :: outcomes => remaining asked outcomes

/-- The answer of a question that is dealt with. -/
def answer : κ × Except ε α → Option (κ × α)
  | (question, .ok value) => some (question, value)
  | (_, .error _) => none

/-- The questions that have been answered, with their answers. -/
def answered (finished : List (κ × Except ε α)) : List (κ × α) :=
  finished.filterMap answer

/-- Where an answer stands among what has become of the questions. -/
theorem answered_split {finished : List (κ × Except ε α)} {index : Nat} {question : κ} {value : α}
    (at_index : (answered finished)[index]? = some (question, value)) :
    ∃ earlier later, finished = earlier ++ (question, .ok value) :: later ∧
      (answered earlier).length = index := by
  induction finished generalizing index with
  | nil => simp [answered] at at_index
  | cons first finished ih =>
      obtain ⟨other, outcome⟩ := first
      cases outcome with
      | error error =>
          obtain ⟨earlier, later, rfl, length⟩ := ih at_index
          exact ⟨(other, .error error) :: earlier, later, rfl, length⟩
      | ok result =>
          cases index with
          | zero =>
              cases at_index
              exact ⟨[], finished, rfl, rfl⟩
          | succ index =>
              obtain ⟨earlier, later, rfl, length⟩ := ih at_index
              exact ⟨(other, .ok result) :: earlier, later, rfl, congrArg Nat.succ length⟩

/-- A move of one of the threads. -/
inductive Move : Pipeline ε κ α → Pipeline ε κ α → Prop
  | ask (line : Pipeline ε κ α) (question : κ) :
      Move line
        { line with
          asked := line.asked ++ [question]
          questions := line.questions ++ [question] }
  | take (line : Pipeline ε κ α) {question : κ} {rest : List κ}
      (waits : line.working = none) (first : line.questions = question :: rest) :
      Move line { line with questions := rest, working := some question }
  | finish (line : Pipeline ε κ α) {question : κ} (value : α)
      (works : line.working = some question) :
      Move line
        { line with
          working := none
          finished := line.finished ++ [(question, .ok value)]
          answers := line.answers ++ [value] }
  | throw (line : Pipeline ε κ α) {question : κ} (error : ε)
      (works : line.working = some question) :
      Move line
        { line with
          working := none
          finished := line.finished ++ [(question, .error error)] }
  | pick (line : Pipeline ε κ α) {value : α} {rest : List α}
      (waits : line.sending = none) (first : line.answers = value :: rest) :
      Move line { line with answers := rest, sending := some value }
  | hand (line : Pipeline ε κ α) {value : α} (sends : line.sending = some value) :
      Move line { line with sending := none, handed := line.handed ++ [value] }

/-- Both queues are empty and both threads wait. -/
structure Drained (line : Pipeline ε κ α) : Prop where
  questions : line.questions = []
  working : line.working = none
  answers : line.answers = []
  sending : line.sending = none

/-- Everything that was put in is somewhere, in the order of the questions. -/
structure Coherent (line : Pipeline ε κ α) : Prop where
  questions : line.finished.map Prod.fst ++ line.working.toList ++ line.questions = line.asked
  answers : line.handed ++ line.sending.toList ++ line.answers =
    (answered line.finished).map Prod.snd

variable {line after : Pipeline ε κ α}

theorem coherent_empty : Coherent ({} : Pipeline ε κ α) :=
  ⟨rfl, rfl⟩

theorem Coherent.move (coherent : line.Coherent) (moved : Move line after) : after.Coherent := by
  obtain ⟨questions, answers⟩ := coherent
  cases moved with
  | ask question =>
      refine ⟨?_, answers⟩
      dsimp only
      rw [← questions, List.append_assoc, List.append_assoc, List.append_assoc]
  | take waits first =>
      refine ⟨?_, answers⟩
      simpa [waits, first] using questions
  | finish value works =>
      refine ⟨?_, ?_⟩
      · simpa [works] using questions
      · dsimp only
        rw [← List.append_assoc, answers]
        simp [answered, answer]
  | throw error works =>
      refine ⟨?_, ?_⟩
      · simpa [works] using questions
      · dsimp only
        rw [answers]
        simp [answered, answer]
  | pick waits first =>
      refine ⟨questions, ?_⟩
      simpa [waits, first] using answers
  | hand sends =>
      refine ⟨questions, ?_⟩
      simpa [sends] using answers

/-- The questions that are left when those that threw are taken out. -/
theorem remaining_sublist (asked : List κ) (outcomes : List (Except ε α)) :
    (remaining asked outcomes).Sublist asked := by
  induction outcomes generalizing asked with
  | nil =>
      unfold remaining
      exact List.Sublist.refl asked
  | cons outcome outcomes ih =>
      cases asked with
      | nil =>
          unfold remaining
          exact List.Sublist.refl []
      | cons question asked =>
          cases outcome with
          | ok value => exact (ih asked).cons_cons question
          | error error => exact (ih asked).cons question

theorem remaining_append (finished : List (κ × Except ε α)) (rest : List κ) :
    remaining (finished.map Prod.fst ++ rest) (finished.map Prod.snd) =
      (answered finished).map Prod.fst ++ rest := by
  induction finished with
  | nil => cases rest <;> rfl
  | cons first finished ih =>
      obtain ⟨question, outcome⟩ := first
      cases outcome with
      | ok value => simpa [remaining, answered, answer] using ih
      | error error => exact ih

/-- The questions that remain are those answered, that being worked on, and
those still queued. -/
theorem Coherent.remaining_eq (coherent : line.Coherent) :
    remaining line.asked (line.finished.map Prod.snd) =
      (answered line.finished).map Prod.fst ++ (line.working.toList ++ line.questions) := by
  rw [← coherent.questions, List.append_assoc, remaining_append]

/-- The answers handed out so far are those to the first of the remaining
questions, and to all of them once the line is drained. -/
theorem Coherent.in_order (coherent : line.Coherent) :
    ∃ served, served <+: answered line.finished ∧ line.handed = served.map Prod.snd ∧
      served.map Prod.fst <+: remaining line.asked (line.finished.map Prod.snd) ∧
      (line.Drained →
        served.map Prod.fst = remaining line.asked (line.finished.map Prod.snd)) := by
  have answers := coherent.answers
  rw [List.append_assoc] at answers
  obtain ⟨served, waiting, split, handed, left⟩ := List.map_eq_append_iff.mp answers.symm
  have order := coherent.remaining_eq
  rw [split, List.map_append, List.append_assoc] at order
  refine ⟨served, ⟨waiting, split.symm⟩, handed.symm, ⟨_, order.symm⟩, ?_⟩
  rintro ⟨noQuestions, idle, noAnswers, silent⟩
  have none_waiting : waiting = [] := by simpa [noAnswers, silent] using left
  simp [order, none_waiting, noQuestions, idle]

end Pipeline

end SensorManager
