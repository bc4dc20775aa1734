import BlobInscription.Dialogue

/-!
Dialogues under way. A trail is what has been asked and answered so far; it leads from the start of
a dialogue to what is left of it.
-/

namespace BlobInscription.Dialogue

variable {Q : Type} {A : Q → Type} {α : Type}

/-- A question with the answer that was given. -/
structure Exchange (A : Q → Type) where
  question : Q
  answer : A question

/-- These questions were asked and answered, and this is left of the dialogue. -/
inductive Trail : Dialogue A α → List (Exchange A) → Dialogue A α → Prop
  | nil (d : Dialogue A α) : Trail d [] d
  | cons {question : Q} {next : A question → Dialogue A α} {answer : A question}
      {history : List (Exchange A)} {rest : Dialogue A α} (h : Trail (next answer) history rest) :
      Trail (ask question next) (⟨question, answer⟩ :: history) rest

/-- Where a dialogue stands: before its next question, or at its end. -/
def standing : Dialogue A α → Q ⊕ α
  | done value => .inr value
  | ask question _ => .inl question

/-- The question that is asked next, if any. -/
def pending : Dialogue A α → List Q
  | done _ => []
  | ask question _ => [question]

instance : LawfulMonad (Dialogue A) := LawfulMonad.mk' (Dialogue A)
  (fun d => bind_done d)
  (fun _ _ => rfl)
  (fun d f g => bind_assoc d f g)

theorem Trail.append {d middle rest : Dialogue A α} {history later : List (Exchange A)}
    (h : Trail d history middle) (hlater : Trail middle later rest) :
    Trail d (history ++ later) rest := by
  induction h with
  | nil => exact hlater
  | cons _ ih => exact .cons (ih hlater)

theorem Trail.snoc {d : Dialogue A α} {history : List (Exchange A)} {question : Q}
    {next : A question → Dialogue A α} (h : Trail d history (ask question next))
    (answer : A question) : Trail d (history ++ [⟨question, answer⟩]) (next answer) :=
  h.append (.cons (.nil _))

theorem trail_nil {d rest : Dialogue A α} : Trail d [] rest ↔ rest = d := by
  constructor
  · intro h
    cases h
    rfl
  · rintro rfl
    exact .nil _

theorem trail_done {value : α} {history : List (Exchange A)} {rest : Dialogue A α} :
    Trail (done value) history rest ↔ history = [] ∧ rest = done value := by
  constructor
  · intro h
    cases h
    exact ⟨rfl, rfl⟩
  · rintro ⟨rfl, rfl⟩
    exact .nil _

end BlobInscription.Dialogue
