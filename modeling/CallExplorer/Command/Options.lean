/-
The options of the command line.

Words on the command line belong to the program itself or, behind the name of a
subcommand, to that. Options that concern every run are known to both, and each
of the three has a help of its own, in a long and in a short form.
-/
import CallExplorer.Command.Settings

namespace CallExplorer

namespace Command

/-- What words can belong to. -/
inductive Scope where
  | program
  | fixture
  | server
  deriving DecidableEq, Repr

/-- The options that take a value. -/
inductive OptionName where
  | direction
  | depth
  | output
  | logFilter
  | logFormat
  | file
  | line
  | column
  | language
  deriving DecidableEq, Repr

namespace OptionName

/-- The word behind the dashes. -/
def flag : OptionName → String
  | .direction => "direction"
  | .depth => "depth"
  | .output => "output"
  | .logFilter => "log-filter"
  | .logFormat => "log-format"
  | .file => "file"
  | .line => "line"
  | .column => "column"
  | .language => "language-id"

/-- What stands for the value in descriptions. -/
def placeholder : OptionName → String
  | .direction => "DIRECTION"
  | .depth => "DEPTH"
  | .output => "OUTPUT"
  | .logFilter => "LOG_FILTER"
  | .logFormat => "LOG_FORMAT"
  | .file => "FILE"
  | .line => "LINE"
  | .column => "COLUMN"
  | .language => "LANGUAGE_ID"

/-- An option as it is written. -/
def usage (o : OptionName) : String := "--" ++ o.flag ++ " <" ++ o.placeholder ++ ">"

/-- What an option is for. -/
def purpose : OptionName → String
  | .direction => "`outgoing` lists what each symbol calls; `incoming` lists its callers"
  | .depth => "Number of levels expanded below the roots"
  | .output => "Controls how the tree is rendered"
  | .logFilter => "Log filter directives, for example `callscope=debug`"
  | .logFormat => "Log output format (`json` or `compact`)"
  | .file => "Source file containing the starting symbol"
  | .line => "Line of the symbol (0-based)"
  | .column => "Column of the symbol (0-based)"
  | .language => "Language identifier sent when opening the file"

/-- What an option is when it is not given. -/
def default? : OptionName → Option String
  | .direction => some (default : Direction).tag
  | .depth => some (Text.decimal Settings.defaultDepth)
  | .output => some "auto"
  | .logFilter => some Settings.defaultLogFilter
  | .logFormat => some (default : LogFormat).name
  | .language => some Settings.defaultLanguage
  | _ => none

/-- The values to choose from, with what they mean. -/
def choices : OptionName → List (String × String)
  | .output =>
    [("auto", "Selects `human` for terminal output and `json` for redirected output"),
     ("human", "Always render an indented text tree"),
     ("json", "Always emit the rows as a JSON array")]
  | _ => []

end OptionName

/-- The options known in a scope, in the order the help names them. -/
def Scope.options : Scope → List OptionName
  | .program => [.direction, .depth, .output, .logFilter, .logFormat]
  | .fixture => [.direction, .depth, .output, .logFilter, .logFormat]
  | .server =>
    [.direction, .file, .depth, .line, .column, .output, .language, .logFilter, .logFormat]

/-- The name of a subcommand. -/
def Scope.name : Scope → String
  | .program => "callscope"
  | .fixture => "fixture"
  | .server => "lsp"

/-- The scope behind the name of a subcommand. -/
def Scope.ofName? (word : String) : Option Scope :=
  [Scope.fixture, Scope.server].find? (·.name == word)

/-- What the program calls itself, with its version. -/
def versionText : String := "callscope 0.1.0\n"

end Command

end CallExplorer
