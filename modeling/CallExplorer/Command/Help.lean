/-
The help.

A help says what a scope is for, how to call it, and what its subcommands,
arguments and options are. The short form has a line for each of these, with the
descriptions in one column; the long form has a paragraph for each.
-/
import CallExplorer.Command.Options

namespace CallExplorer

namespace Command

/-- An entry of a help. -/
structure HelpEntry where
  usage : String
  purpose : String
  default? : Option String := none
  choices : List (String × String) := []

namespace HelpEntry

/-- A text filled up with blanks. -/
def padded (width : Nat) (s : String) : String :=
  s ++ String.ofList (List.replicate (width - s.length) ' ')

/-- An entry on a line of its own, its description beginning in a column. -/
def short (column : Nat) (e : HelpEntry) : String :=
  padded column e.usage ++ e.purpose
    ++ (match e.default? with
        | some value => " [default: " ++ value ++ "]"
        | none => "")
    ++ (if e.choices.isEmpty then ""
        else " [possible values: " ++ ", ".intercalate (e.choices.map (·.1)) ++ "]")
    ++ "\n"

/-- How far the text of a paragraph is indented. -/
def indentation : String := "          "

/-- A value to choose from in a paragraph, its meaning beginning in a column. -/
def choiceLine (column : Nat) (choice : String × String) : String :=
  indentation ++ "- " ++ padded column (choice.1 ++ ":") ++ choice.2 ++ "\n"

/-- The values to choose from. -/
def choiceLines (choices : List (String × String)) : String :=
  let column := (choices.map fun c => c.1.length + 2).foldl max 0
  if choices.isEmpty then ""
  else "\n" ++ indentation ++ "Possible values:\n" ++ String.join (choices.map (choiceLine column))

/-- An entry as a paragraph. -/
def long (e : HelpEntry) : String :=
  e.usage ++ "\n" ++ indentation ++ e.purpose ++ "\n" ++ choiceLines e.choices
    ++ (match e.default? with
        | some value => indentation ++ "\n" ++ indentation ++ "[default: " ++ value ++ "]\n"
        | none => "")

/-- Entries below a heading. -/
def listing (isLong : Bool) (heading : String) (entries : List HelpEntry) : String :=
  let column := (entries.map fun e => e.usage.length + 2).foldl max 0
  "\n" ++ heading ++ ":\n"
    ++ (if isLong then "\n".intercalate (entries.map long)
        else String.join (entries.map (short column)))

end HelpEntry

namespace Scope

/-- What a scope is for. -/
def purpose : Scope → String
  | .program => "Explores the callers or callees of a symbol"
  | .fixture => "Reads a JSON call graph fixture"
  | .server => "Asks a language server, starting at a position in a source file"

/-- How a scope is called. -/
def usage : Scope → String
  | .program => "callscope [OPTIONS] <COMMAND>"
  | .fixture => "callscope fixture [OPTIONS] <PATH>"
  | .server =>
    "callscope lsp [OPTIONS] --file <FILE> --line <LINE> --column <COLUMN> -- <SERVER>..."

/-- What a scope takes besides options. -/
def arguments : Scope → List HelpEntry
  | .program => []
  | .fixture => [{ usage := "  <PATH>", purpose := "Path to the fixture file" }]
  | .server =>
    [{ usage := "  <SERVER>...", purpose := "Language server command followed by its arguments" }]

/-- An option as an entry. -/
def optionEntry (o : OptionName) : HelpEntry where
  usage := "      " ++ o.usage
  purpose := o.purpose
  default? := o.default?
  choices := o.choices

/-- The options of a scope as entries, those without a value last. -/
def optionEntries (s : Scope) (isLong : Bool) : List HelpEntry :=
  s.options.map optionEntry
    ++ [{ usage := "  -h, --help"
          purpose :=
            if isLong then "Print help (see a summary with '-h')"
            else "Print help (see more with '--help')" }]
    ++ (if s = .program then [{ usage := "  -V, --version", purpose := "Print version" }] else [])

/-- The subcommands as entries, always a line each. -/
def subcommands : String :=
  HelpEntry.listing false "Commands" <|
    [Scope.fixture, Scope.server].map fun s => { usage := "  " ++ s.name, purpose := s.purpose }

/-- The help of a scope. -/
def help (s : Scope) (isLong : Bool) : String :=
  s.purpose ++ "\n\nUsage: " ++ s.usage ++ "\n"
    ++ (if s = .program then subcommands else HelpEntry.listing isLong "Arguments" s.arguments)
    ++ HelpEntry.listing isLong "Options" (s.optionEntries isLong)

end Scope

end Command

end CallExplorer
