/-
Rows of a listed tree.

A row holds all that a view needs to show a node: how deep it lies, its identity
across refreshes, its label, what is read out aloud, and the call sites.
-/
import CallExplorer.Tree.Identity

namespace CallExplorer

/-- The label of a node. -/
structure Label where
  name : String
  description : Option String
  kind : SymbolKind
  deprecated : Bool
  deriving DecidableEq

/-- The label of an item. -/
def Item.label (i : Item) : Label :=
  ⟨i.name, i.detail, .ofCode i.kind, i.isDeprecated⟩

/-- What is read out for an item. -/
def Item.spokenLabel (d : Direction) (i : Item) : String :=
  match d with
  | .outgoing => "calls from " ++ i.name
  | .incoming => "callers of " ++ i.name

/-- A node as a view shows it. -/
structure Row where
  depth : Nat
  id : String
  label : Label
  spoken : String
  locations : Option (List Location)
  deriving DecidableEq

namespace Row

/-- The row of a node while the session looks in a direction. -/
def ofNode (d : Direction) (n : Node) : Row where
  depth := n.depth
  id := n.identity d
  label := n.item.label
  spoken := n.item.spokenLabel d
  locations := n.locations

-- ============================================ constants of the view

/-- The height of every row, in pixels. -/
def height : Nat := 22

/-- The name of the template that all rows are drawn with. -/
def template : String := "CallRenderer"

/-- What is read out for the whole view. -/
def viewLabel : String := "Call Hierarchy"

-- ============================================ outline

/-- The call sites of a row: the first of them, and how many more there are. -/
def sitesText : List Location → String
  | [] => ""
  | [first] => " @ " ++ first.display
  | first :: rest => " @ " ++ first.display ++ " +" ++ Text.decimal rest.length

/-- What stands on the line of a row behind the indentation. -/
def lineText (r : Row) : String :=
  r.label.name
    ++ (if r.label.deprecated then " [deprecated]" else "")
    ++ (match r.label.description with
        | some description => " (" ++ description ++ ")"
        | none => "")
    ++ sitesText (r.locations.getD [])

/-- The line of a row: two spaces a level, what there is to say, and the line feed. -/
def line (r : Row) : String :=
  String.ofList (List.replicate (2 * r.depth) ' ') ++ r.lineText ++ "\n"

/-- Rows as an indented outline. -/
def outline (rows : List Row) : String := String.join (rows.map line)

-- ============================================ JSON

/-- A label as a value. -/
def labelJson (l : Label) : Json :=
  .object
    [("name", .text l.name), ("description", .orNull (l.description.map .text)),
     ("kind", .text l.kind.name), ("deprecated", .bool l.deprecated)]

/-- A row as a value. -/
def json (r : Row) : Json :=
  .object
    [("depth", .int r.depth), ("id", .text r.id), ("label", labelJson r.label),
     ("aria_label", .text r.spoken),
     ("locations", .orNull (r.locations.map fun ls => .array (ls.map Location.json)))]

/-- Rows as a value. -/
def listJson (rows : List Row) : Json := .array (rows.map json)

/-- Rows as a JSON text for people. -/
def listText (rows : List Row) : String := (listJson rows).indented

end Row

end CallExplorer
