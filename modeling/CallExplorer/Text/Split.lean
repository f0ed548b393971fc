/-
Texts in pieces.

Paths, addresses and filters are lists of pieces with a separator between them.
Nothing is dropped on the way: pieces may be empty, and joining them with the
separator gives the text back.
-/
namespace CallExplorer.Text

/-- The pieces between the separators; always at least one. -/
def splitAt (sep : Char) : List Char → List (List Char)
  | [] => [[]]
  | c :: cs =>
    if c = sep then [] :: splitAt sep cs
    else
      match splitAt sep cs with
      | [] => [[c]]
      | p :: ps => (c :: p) :: ps

theorem splitAt_ne_nil (sep : Char) (cs : List Char) : splitAt sep cs ≠ [] := by
  cases cs with
  | nil => simp [splitAt]
  | cons c cs =>
    simp only [splitAt]
    split
    · simp
    · split <;> simp

end CallExplorer.Text
