import Mathlib.Data.List.Forall2

/-!
# Sequences of calls

A component answers one call after another.  Two components that start
related, and of which every call keeps the relation and gets related
answers, answer every sequence of calls alike.
-/

namespace IocpServer.Library

universe u v w

variable {Call : Type u}
variable {Answer OtherAnswer : Type v} {State OtherState : Type w}

/-- The answers to a sequence of calls, and the state behind them. -/
def answerAll
    (respond : State → Call → Answer × State) (start : State) :
    List Call → List Answer × State
  | [] => ([], start)
  | call :: calls =>
      let (answer, next) := respond start call
      let (answers, finish) := answerAll respond next calls
      (answer :: answers, finish)

/-- Related components give related answers. -/
theorem answerAll_related
    {respond : State → Call → Answer × State}
    {otherRespond : OtherState → Call → OtherAnswer × OtherState}
    {related : State → OtherState → Prop}
    {answersMatch : Answer → OtherAnswer → Prop}
    (kept :
      ∀ state other call,
        related state other →
          answersMatch (respond state call).1 (otherRespond other call).1 ∧
            related (respond state call).2 (otherRespond other call).2)
    {start : State} {otherStart : OtherState}
    (base : related start otherStart) (calls : List Call) :
    List.Forall₂ answersMatch (answerAll respond start calls).1
        (answerAll otherRespond otherStart calls).1 ∧
      related (answerAll respond start calls).2
        (answerAll otherRespond otherStart calls).2 := by
  induction calls generalizing start otherStart with
  | nil => exact ⟨.nil, base⟩
  | cons call calls recursive =>
      rcases kept start otherStart call base with ⟨answered, next⟩
      rcases recursive next with ⟨answers, finish⟩
      exact ⟨.cons answered answers, finish⟩

end IocpServer.Library
