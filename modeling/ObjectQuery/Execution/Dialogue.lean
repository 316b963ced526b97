/-! Computations that ask for answers on their way, one question at a time. -/

namespace ObjectQuery

/-- Either a result, or a question and what follows each of its answers. -/
inductive Dialogue (Question : Type) (Answer : Question → Type) (α : Type) where
  | done (result : α)
  | ask (question : Question) (next : Answer question → Dialogue Question Answer α)

namespace Dialogue

variable {Question : Type} {Answer : Question → Type} {α β : Type}

def bind (d : Dialogue Question Answer α) (f : α → Dialogue Question Answer β) :
    Dialogue Question Answer β :=
  match d with
  | .done result => f result
  | .ask question next => .ask question fun answer => (next answer).bind f

/-- The result when every question is answered out of a state, the state that is left, and the
questions in the order they were asked. -/
def run {σ : Type} (answer : (question : Question) → σ → Answer question × σ) :
    Dialogue Question Answer α → σ → α × σ × List Question
  | .done result, state => (result, state, [])
  | .ask question next, state =>
    let (reply, state) := answer question state
    let (result, state, asked) := (next reply).run answer state
    (result, state, question :: asked)

/-- Answers every question by a dialogue with someone else. -/
def through {Question' : Type} {Answer' : Question' → Type}
    (answer : (question : Question) → Dialogue Question' Answer' (Answer question)) :
    Dialogue Question Answer α → Dialogue Question' Answer' α
  | .done result => .done result
  | .ask question next => (answer question).bind fun reply => (next reply).through answer

theorem run_bind {σ : Type} (answer : (question : Question) → σ → Answer question × σ)
    (d : Dialogue Question Answer α) (f : α → Dialogue Question Answer β) (state : σ) :
    (d.bind f).run answer state =
      let (a, state, asked) := d.run answer state
      let (b, state, askedNext) := (f a).run answer state
      (b, state, asked ++ askedNext) := by
  induction d generalizing state with
  | done => simp [bind, run]
  | ask question next ih => simp [bind, run, ih]

section

variable {σ : Type} {Question' : Type} {Answer' : Question' → Type}
  (answer : (question : Question') → σ → Answer' question × σ)
  (service : (question : Question) → Dialogue Question' Answer' (Answer question))

/-- Answers one question by a dialogue with someone else, whose questions are added to those that
were asked before. -/
def relay (question : Question) : σ × List Question' → Answer question × σ × List Question'
  | (state, asked) =>
    let (reply, state, more) := (service question).run answer state
    (reply, state, asked ++ more)

theorem run_through (d : Dialogue Question Answer α) (state : σ) (asked : List Question') :
    let run := (d.through service).run answer state
    let relayed := d.run (relay answer service) (state, asked)
    relayed.1 = run.1 ∧ relayed.2.1 = (run.2.1, asked ++ run.2.2) := by
  induction d generalizing state asked with
  | done result => simp [through, run]
  | ask question next ih =>
    obtain ⟨hresult, hstate⟩ := ih ((service question).run answer state).1
      ((service question).run answer state).2.1 (asked ++ ((service question).run answer state).2.2)
    simp only [through, run_bind, run, relay]
    exact ⟨hresult, by rw [hstate, List.append_assoc]⟩

end

end Dialogue

end ObjectQuery
