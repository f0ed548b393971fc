/-
Where calls come from.

A provider names the symbols a tree starts from and finds the calls of an item,
in either direction. A query can be cancelled before it is looked at. What a
provider keeps between queries is its state.
-/
import CallExplorer.Action
import CallExplorer.Failure
import CallExplorer.Symbol.Link

namespace CallExplorer

/-- A question for the calls of an item. -/
structure Query where
  direction : Direction
  item : Item
  cancelled : Bool := false

/-- A source of calls with states `σ`. -/
structure Provider (σ : Type) where
  roots : List Item
  resolve : Query → Action σ Failure (List Link)

end CallExplorer
