namespace BlobInscription

/-- Answers by the name of the question. -/
structure ReplyBook (α : Type) where
  pages : List (String × List α)
  deriving Repr

namespace ReplyBook

variable {α : Type}

/-- The next answer under a name, if there is any. -/
def next? (book : ReplyBook α) (name : String) : Option α :=
  (book.pages.lookup name).bind List.head?

/-- What is left of answers when the first is taken. -/
def leftOf : List α → List α
  | _ :: next :: rest => next :: rest
  | answers => answers

/-- The book after a question of a name. -/
def turn (book : ReplyBook α) (name : String) : ReplyBook α :=
  ⟨book.pages.map fun (n, answers) => if n = name then (n, leftOf answers) else (n, answers)⟩

end ReplyBook

end BlobInscription
