/-
Filters for the log.

A filter is a list of directives with commas between them. A directive gives a
level to a target, or to every target when it names none; without a level it lets
everything pass. It holds for all targets that begin with its own, and of the
directives that hold the one with the longest target decides. Where none holds,
nothing is logged.

A directive may also be bound to a span, between brackets, and to a field, between
braces, with or without a value for it. No event of this library lies in a span, so
directives that name one, or a value of a field in one, never hold. A field alone
must be among those of an event; as long as there is no event yet, a directive bound
to it holds for all that its target holds for.
-/
import CallExplorer.Log.Event
import CallExplorer.Pattern.Check
import CallExplorer.Text.Alphanumeric
import CallExplorer.Text.Bytes
import CallExplorer.Text.Split

namespace CallExplorer

/-- The least important level that passes; `none` lets nothing pass. -/
abbrev Threshold := Option Level

namespace Threshold

/-- The name of a threshold. -/
def name (t : Threshold) : String :=
  match t with
  | none => "OFF"
  | some level => level.name

/-- Whether a level passes. -/
def passes (t : Threshold) (level : Level) : Bool :=
  match t with
  | none => false
  | some least => level.rank ≤ least.rank

/-- The threshold with the given number. -/
def ofNumber? : Nat → Option Threshold
  | 0 => some none
  | 1 => some (some .error)
  | 2 => some (some .warn)
  | 3 => some (some .info)
  | 4 => some (some .debug)
  | 5 => some (some .trace)
  | _ => none

/-- The threshold a text names, in any case, or by its number. -/
def ofText? (cs : List Char) : Option Threshold :=
  match (Text.readNat Text.max64 cs).toOption.bind ofNumber? with
  | some t => some t
  | none =>
    let names : List (String × Threshold) :=
      [("off", none), ("error", some .error), ("warn", some .warn), ("info", some .info),
       ("debug", some .debug), ("trace", some .trace)]
    (names.find? fun n => Text.eqIgnoreCase n.1 (String.ofList cs)).map (·.2)

end Threshold

/-- Why a text is no filter. -/
inductive FilterError where
  | badLevel
  | badDirective
  | badPattern (why : Pattern.Trouble)
  deriving DecidableEq, Repr

/-- The complaint in words. -/
def FilterError.message : FilterError → String
  | .badLevel =>
    "error parsing level filter: expected one of \"off\", \"error\", \"warn\", \"info\", "
      ++ "\"debug\", \"trace\", or a number 0-5"
  | .badDirective => "invalid filter directive"
  | .badPattern .malformed => "invalid field filter: error building NFA"
  | .badPattern .edges =>
    "invalid field filter: unsupported regex feature for DFAs: cannot build DFAs for regexes "
      ++ "with Unicode word boundaries; switch to ASCII word boundaries, or heuristically enable "
      ++ "Unicode word boundaries or use a different regex engine"

/-- What a directive is bound to besides its target. -/
inductive Binding where
  /-- Nothing. -/
  | free
  /-- A field that an event must have. -/
  | field (name : String)
  /-- A span, or a value of a field in one. -/
  | span
  deriving DecidableEq, Repr

/-- A directive of a filter. -/
structure Directive where
  target : Option (List Char)
  binding : Binding
  threshold : Threshold

namespace Directive

-- ============================================ values of fields

/-- Whether a text is a decimal number without a sign, or one of the words for numbers that
have no digits. -/
def isUnsignedNumber (cs : List Char) : Bool :=
  let after := cs.dropWhile Char.isDigit
  let whole := cs.length - after.length
  let (left, fraction) :=
    match after with
    | '.' :: rest => (rest.dropWhile Char.isDigit, (rest.takeWhile Char.isDigit).length)
    | rest => (rest, 0)
  let exponent :=
    match left with
    | [] => true
    | e :: '+' :: ds => e.toLower == 'e' && !ds.isEmpty && ds.all Char.isDigit
    | e :: '-' :: ds => e.toLower == 'e' && !ds.isEmpty && ds.all Char.isDigit
    | e :: ds => e.toLower == 'e' && !ds.isEmpty && ds.all Char.isDigit
  (0 < whole + fraction && exponent)
    || ["inf", "infinity", "nan"].any fun w => Text.eqIgnoreCase w (String.ofList cs)

/-- Checks the value of a field: a pattern. The only numbers that are no patterns are those
with a plus sign. -/
def checkValue (cs : List Char) : Except FilterError Unit :=
  match cs with
  | '+' :: rest => if isUnsignedNumber rest then .ok () else (Pattern.check cs).mapError .badPattern
  | cs => (Pattern.check cs).mapError .badPattern

/-- What a directive is bound to that names a span, if not the empty one, and a field, with a
value behind the first equals sign. -/
def readField (span field : List Char) : Except FilterError Binding :=
  match Text.splitAt '=' field with
  | _ :: value :: _ => do
    checkValue value
    .ok .span
  | _ => .ok (if span.isEmpty then .field (String.ofList field) else .span)

-- ============================================ reading

/-- Whether a directive may begin with a character. -/
def mayBegin (c : Char) : Bool := c == '-' || c == ':' || c == '_' || Text.isAlphanumeric c

/-- A directive as it is given, and without outer blanks. The latter has the shape, but the
parts are cut out of the former at the same offsets. -/
structure Source where
  whole : List Char
  inner : List Char

namespace Source

/-- The offset at which a rest of the inner text begins. -/
def offset (s : Source) (rest : List Char) : Nat := Text.byteCount s.inner - Text.byteCount rest

/-- The part from where one rest of the inner text begins. -/
def after (s : Source) (start : List Char) : List Char := Text.dropBytes (s.offset start) s.whole

/-- The part from where one rest of the inner text begins to where another does. -/
def between (s : Source) (start stop : List Char) : List Char :=
  Text.takeBytes (s.offset stop - s.offset start) (s.after start)

end Source

/-- The level behind the equals sign; none given means everything. -/
def readLevel (cs : List Char) : Except FilterError Threshold :=
  if cs.isEmpty then .ok (some .trace)
  else
    match Threshold.ofText? cs with
    | some t => .ok t
    | none => .error .badLevel

/-- Reads what is left behind the closing bracket. -/
def readEnd (s : Source) : List Char → Except FilterError Threshold
  | [] => .ok (some .trace)
  | '=' :: rest => readLevel (s.after rest)
  | _ => .error .badDirective

/-- Reads from behind the opening bracket on. -/
def readBound (s : Source) (target : Option (List Char)) (cs : List Char) :
    Except FilterError Directive := do
  let stop := cs.dropWhile fun c => c != ']' && c != '\x7b'
  match stop with
  | [] => .error .badDirective
  | ']' :: rest => .ok ⟨target, .span, ← readEnd s rest⟩
  | _ :: start =>
    match start.dropWhile (· != '\x7d') with
    | [] => .error .badDirective
    | brace :: rest =>
      let field := s.between start (brace :: rest)
      if field.isEmpty then .error .badDirective
      else
        let binding ← readField (s.between cs stop) field
        match rest with
        | ']' :: rest => .ok ⟨target, binding, ← readEnd s rest⟩
        | _ => .error .badDirective

/-- Reads a directive. -/
def ofText (whole : List Char) : Except FilterError Directive :=
  let s : Source := ⟨whole, Text.trim whole⟩
  match s.inner with
  | [] => .error .badDirective
  | '[' :: rest => readBound s none rest
  | c :: _ =>
    if !mayBegin c then .error .badDirective
    else
      let stop := s.inner.dropWhile fun c => c != '=' && c != '['
      match stop with
      | [] =>
        match Threshold.ofText? whole with
        | some t => .ok ⟨none, .free, t⟩
        | none => .ok ⟨some whole, .free, some .trace⟩
      | '=' :: rest => do .ok ⟨some (s.between s.inner stop), .free, ← readLevel (s.after rest)⟩
      | _ :: rest => readBound s (some (s.between s.inner stop)) rest

-- ============================================ deciding

/-- Whether a directive holds for a target, and for an event with some fields, if there is one. -/
def holds (d : Directive) (target : String) (fields : Option (List String)) : Bool :=
  (match d.target with
    | none => true
    | some t => t.isPrefixOf target.toList)
  && (match d.binding with
    | .free => true
    | .field name => fields.all (·.contains name)
    | .span => false)

/-- How specific the target of a directive is. -/
def reach (d : Directive) : Nat :=
  match d.target with
  | none => 0
  | some t => Text.byteCount t + 1

/-- The field that a directive is bound to, if any. -/
def field? (d : Directive) : Option String :=
  match d.binding with
  | .field name => some name
  | _ => none

/-- Whether the second field is not less specific than the first. Of two names the greater
counts as the more specific. -/
def fieldLe : Option String → Option String → Bool
  | none, _ => true
  | some _, none => false
  | some a, some b => a ≤ b

/-- Whether a directive that comes later takes the place of another. -/
def outweighs (later earlier : Directive) : Bool :=
  earlier.reach < later.reach
    || (earlier.reach == later.reach && fieldLe earlier.field? later.field?)

end Directive

/-- A filter for the log. -/
structure Filter where
  directives : List Directive

namespace Filter

/-- Reads a filter. Empty directives are passed over. -/
def ofText (text : String) : Except FilterError Filter := do
  let pieces := (Text.splitAt ',' text.toList).filter fun cs => !cs.isEmpty
  let directives ← pieces.mapM Directive.ofText
  .ok ⟨directives⟩

/-- The directive that decides, if one holds. -/
def decisive (f : Filter) (target : String) (fields : Option (List String)) :
    Option Directive :=
  (f.directives.filter fun d => d.holds target fields).foldl
    (fun best d =>
      match best with
      | none => some d
      | some b => if d.outweighs b then some d else some b)
    none

/-- The least important level that passes for a target, and for an event with some fields, if
there is one. -/
def threshold (f : Filter) (target : String) (fields : Option (List String)) : Threshold :=
  (f.decisive target fields).bind (·.threshold)

/-- Whether an event is logged. -/
def passes (f : Filter) (e : Event) : Bool :=
  (f.threshold e.target (some ("message" :: e.fields.map (·.1)))).passes e.level

end Filter

end CallExplorer
