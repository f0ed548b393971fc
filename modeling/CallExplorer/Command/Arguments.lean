/-
The command line.

Words are read from the left. Words of the program come first; the name of a
subcommand hands the rest over to that. A value may be glued to its option with an
equals sign, and is then checked at once. A value in a word of its own waits until
something else shows that it is complete: the next option, an operand, or the end.
That is why of two mistakes the later one is sometimes reported. Behind two dashes
there are only operands.

An option may be given once in each scope, and the subcommand has the last word.
-/
import CallExplorer.Command.Options
import CallExplorer.Text.Visible

namespace CallExplorer

namespace Command

-- ============================================ complaints

/-- What is wrong with a value. -/
inductive ValueError where
  | number (e : Text.NumberError)
  | outOfRange (n : Int)
  | noVariant
  deriving DecidableEq, Repr

/-- The complaint in words. -/
def ValueError.message : ValueError → String
  | .number e => e.message
  | .outOfRange n => Text.signedDecimal n ++ " is not in 0..=4294967295"
  | .noVariant => "Matching variant not found"

/-- What is wrong with a command line. -/
inductive UsageError where
  | unexpected (word : String)
  | unknownSubcommand (word : String)
  /-- A value for an option that takes none. -/
  | unneededValue (value flag : String)
  | missingValue (o : OptionName)
  | repeated (o : OptionName)
  | badValue (o : OptionName) (value : String) (why : ValueError)
  | badChoice (o : OptionName) (value : String)
  | missing (usages : List String)
  | noSubcommand
  deriving DecidableEq, Repr

namespace UsageError

/-- The values an option can have, on a line of their own, if it has them listed. -/
def choicesText (o : OptionName) : String :=
  if o.choices.isEmpty then ""
  else "\n  [possible values: " ++ ", ".intercalate (o.choices.map (·.1)) ++ "]"

/-- The complaint about an option without its value. -/
def missingValueText (o : OptionName) : String :=
  "a value is required for '" ++ o.usage ++ "' but none was supplied" ++ choicesText o

/-- A word of the user's in a complaint. -/
def cite (word : String) : String := "'" ++ Text.visible word ++ "'"

/-- The complaint in words. -/
def message : UsageError → String
  | .unexpected word => "unexpected argument " ++ cite word ++ " found"
  | .unknownSubcommand word => "unrecognized subcommand " ++ cite word
  | .unneededValue value flag =>
    "unexpected value " ++ cite value ++ " for '" ++ flag ++ "' found; no more were expected"
  | .missingValue o => missingValueText o
  | .repeated o => "the argument '" ++ o.usage ++ "' cannot be used multiple times"
  | .badValue o value why =>
    "invalid value " ++ cite value ++ " for '" ++ o.usage ++ "': " ++ why.message
  | .badChoice o value =>
    if value.isEmpty then missingValueText o
    else "invalid value " ++ cite value ++ " for '" ++ o.usage ++ "'" ++ choicesText o
  | .missing usages =>
    "the following required arguments were not provided:"
      ++ String.join (usages.map fun u => "\n  " ++ u)
  | .noSubcommand =>
    "'callscope' requires a subcommand but one was not provided\n  [subcommands: fixture, lsp]"

end UsageError

/-- Why a command line leads to no run. -/
inductive Stop where
  /-- Somebody asks for help. -/
  | help (s : Scope) (isLong : Bool)
  /-- Somebody asks for the version. -/
  | version
  /-- Nothing is asked for at all. -/
  | nothing
  | wrong (e : UsageError)
  deriving DecidableEq, Repr

-- ============================================ values

/-- The values given to options in one scope. -/
structure Choices where
  direction : Option Direction := none
  depth : Option Nat := none
  output : Option OutputFormat := none
  logFilter : Option String := none
  logFormat : Option LogFormat := none
  file : Option String := none
  line : Option UInt32 := none
  column : Option UInt32 := none
  language : Option String := none
  deriving DecidableEq, Repr

namespace Choices

/-- Whether an option has its value. -/
def has (c : Choices) : OptionName → Bool
  | .direction => c.direction.isSome
  | .depth => c.depth.isSome
  | .output => c.output.isSome
  | .logFilter => c.logFilter.isSome
  | .logFormat => c.logFormat.isSome
  | .file => c.file.isSome
  | .line => c.line.isSome
  | .column => c.column.isSome
  | .language => c.language.isSome

/-- Reads a line or a column. -/
def readU32 (raw : String) : Except ValueError UInt32 :=
  match Text.readInt64 raw.toList with
  | .error e => .error (.number e)
  | .ok n =>
    if 0 ≤ n ∧ n < 4294967296 then .ok (UInt32.ofNat n.toNat) else .error (.outOfRange n)

/-- Reads the name of a variant. -/
def readVariant {α : Type} : Option α → Except ValueError α
  | some a => .ok a
  | none => .error .noVariant

/-- Checks the value of an option and keeps it. -/
def set (c : Choices) (o : OptionName) (raw : String) : Except UsageError Choices := do
  let checked {α : Type} (x : Except ValueError α) : Except UsageError α :=
    x.mapError (.badValue o raw)
  match o with
  | .direction => .ok { c with direction := some (← checked (readVariant (Direction.ofName? raw))) }
  | .depth =>
    let depth ← checked ((Text.readNat Text.max64 raw.toList).mapError .number)
    .ok { c with depth := some depth }
  | .output =>
    match OutputFormat.ofName? raw with
    | some f => .ok { c with output := some f }
    | none => .error (.badChoice o raw)
  | .logFilter => .ok { c with logFilter := some raw }
  | .logFormat => .ok { c with logFormat := some (← checked (readVariant (LogFormat.ofName? raw))) }
  | .file => .ok { c with file := some raw }
  | .line => .ok { c with line := some (← checked (readU32 raw)) }
  | .column => .ok { c with column := some (← checked (readU32 raw)) }
  | .language => .ok { c with language := some raw }

/-- Adds the value of an option. -/
def add (c : Choices) (o : OptionName) (raw : String) : Except UsageError Choices :=
  if c.has o then .error (.repeated o) else c.set o raw

end Choices

-- ============================================ words

/-- What a word looks like. -/
inductive Word where
  | dashes
  | long (name : String) (value : Option String)
  | short (c : Char)
  | plain
  deriving DecidableEq, Repr

/-- The look of a word. -/
def Word.ofString (s : String) : Word :=
  match s.toList with
  | ['-', '-'] => .dashes
  | '-' :: '-' :: rest =>
    let name := String.ofList (rest.takeWhile (· != '='))
    match rest.dropWhile (· != '=') with
    | [] => .long name none
    | _ :: value => .long name (some (String.ofList value))
  | '-' :: c :: _ => .short c
  | _ => .plain

/-- What was read in a scope so far. -/
structure Reading where
  chosen : Choices := {}
  /-- The last option, as long as its value is not checked, and the value if it came. -/
  pending : Option (OptionName × Option String) := none
  operands : List String := []

namespace Reading

/-- Whether the next word is the value of an option. -/
def awaitsValue (r : Reading) : Bool :=
  match r.pending with
  | some (_, none) => true
  | _ => false

/-- Checks the value of the last option. -/
def settle (r : Reading) : Except Stop Reading :=
  match r.pending with
  | none => .ok r
  | some (o, none) => .error (.wrong (.missingValue o))
  | some (o, some raw) => do
    let chosen ← (r.chosen.add o raw).mapError .wrong
    .ok { r with chosen := chosen, pending := none }

/-- Takes an option, with its value if that is glued to it. -/
def option (r : Reading) (o : OptionName) (value : Option String) : Except Stop Reading := do
  let r ← r.settle
  match value with
  | none => .ok { r with pending := some (o, none) }
  | some raw =>
    let chosen ← (r.chosen.add o raw).mapError .wrong
    .ok { r with chosen := chosen }

/-- Takes an option that takes no value and ends the reading. -/
def ending (r : Reading) (flag : String) (value : Option String) (stop : Stop) :
    Except Stop Reading :=
  match value with
  | some raw => .error (.wrong (.unneededValue raw ("--" ++ flag)))
  | none => do
    let _ ← r.settle
    .error stop

/-- Takes an operand. -/
def operand (r : Reading) (word : String) : Except Stop Reading := do
  let r ← r.settle
  .ok { r with operands := r.operands ++ [word] }

/-- Takes a word that is neither dashes nor the name of a subcommand. -/
def word (s : Scope) (r : Reading) (w : String) : Except Stop Reading :=
  match Word.ofString w with
  | .long name value =>
    match s.options.find? (·.flag == name) with
    | some o => r.option o value
    | none =>
      if name = "help" then r.ending name value (.help s true)
      else if name = "version" ∧ s = .program then r.ending name value .version
      else .error (.wrong (.unexpected ("--" ++ name)))
  | .short c =>
    if c = 'h' then r.ending "help" none (.help s false)
    else if c = 'V' ∧ s = .program then r.ending "version" none .version
    else .error (.wrong (.unexpected (String.ofList ['-', c])))
  | _ =>
    match r.pending with
    | some (o, none) => .ok { r with pending := some (o, some w) }
    | _ =>
      match s with
      | .program => .error (.wrong (.unknownSubcommand w))
      | .fixture => if r.operands.isEmpty then r.operand w else .error (.wrong (.unexpected w))
      | .server => .error (.wrong (.unexpected w))

/-- Takes the words behind two dashes. -/
def operandsOnly (s : Scope) : List String → Reading → Except Stop Reading
  | [], r => .ok r
  | w :: rest, r =>
    match s with
    | .program =>
      .error (.wrong (if (Scope.ofName? w).isSome then .unexpected w else .unknownSubcommand w))
    | .fixture =>
      if r.operands.isEmpty then do operandsOnly s rest (← r.operand w)
      else .error (.wrong (.unexpected w))
    | .server => do operandsOnly s rest (← r.operand w)

/-- Takes the words of a subcommand. -/
def subcommand (s : Scope) : List String → Reading → Except Stop Reading
  | [], r => r.settle
  | w :: rest, r =>
    if w = "--" then do (← operandsOnly s rest r).settle
    else do subcommand s rest (← r.word s w)

end Reading

-- ============================================ settings

/-- The usages of what is missing. -/
def missingOf (needed : List (Bool × String)) : List String :=
  (needed.filter fun n => !n.1).map (·.2)

/-- Where the symbols come from, by what was read in the scope of a subcommand. -/
def sourceOf (s : Scope) (r : Reading) : Except Stop Source :=
  match s, r.operands, r.chosen.file, r.chosen.line, r.chosen.column with
  | .fixture, path :: _, _, _, _ => .ok (.fixture path)
  | .fixture, [], _, _, _ => .error (.wrong (.missing ["<PATH>"]))
  | _, command :: arguments, some file, some line, some column =>
    .ok (.server
      { file, line, column, command, arguments
        language := r.chosen.language.getD Settings.defaultLanguage })
  | _, operands, file, line, column =>
    .error (.wrong (.missing (missingOf
      [(file.isSome, OptionName.file.usage), (line.isSome, OptionName.line.usage),
       (column.isSome, OptionName.column.usage), (!operands.isEmpty, "<SERVER>...")])))

/-- The settings, by what was chosen in the scope of the subcommand and around it. -/
def settingsOf (inner outer : Choices) (source : Source) : Settings where
  direction := (inner.direction.or outer.direction).getD default
  depth := (inner.depth.or outer.depth).getD Settings.defaultDepth
  output := (inner.output.or outer.output).getD .auto
  logFilter := (inner.logFilter.or outer.logFilter).getD Settings.defaultLogFilter
  logFormat := (inner.logFormat.or outer.logFormat).getD default
  source := source

/-- A command line that ends without a subcommand. -/
def withoutSubcommand (r : Reading) : Stop :=
  match r.settle with
  | .error stop => stop
  | .ok r => if r.chosen = {} then .nothing else .wrong .noSubcommand

/-- Reads the words of the program, and those of a subcommand behind them. -/
def readWords : List String → Reading → Except Stop Settings
  | [], r => .error (withoutSubcommand r)
  | w :: rest, r =>
    match if r.awaitsValue then none else Scope.ofName? w with
    | some s => do
      let inner ← Reading.subcommand s rest {}
      let source ← sourceOf s inner
      let outer ← r.settle
      .ok (settingsOf inner.chosen outer.chosen source)
    | none =>
      if w = "--" then do .error (withoutSubcommand (← Reading.operandsOnly .program rest r))
      else do readWords rest (← r.word .program w)

/-- Reads a command line without the name of the program. -/
def readSettings (words : List String) : Except Stop Settings := readWords words {}

end Command

end CallExplorer
