/-
JSON documents as they stand.

A document is the syntax of a JSON text: members in the order written, repeated
keys kept. It may be broken off. A text is read only as far as somebody wants
it, and the first problem met in reading order is the one to report, whether the
syntax or the type of a value is at fault. So a syntax error is no failure of the
reader but a leaf of the tree, found by whoever walks into it: reading it as a
value and skipping over it may even meet different problems.

Some problems show only when a value is wanted: a surrogate without its partner,
bytes that are no UTF-8, a number beyond every double. Such a leaf holds its
problem in place of its value, and skipping it is no error at all.
-/
import CallExplorer.Json.Value

namespace CallExplorer

/-- What can be wrong with a JSON text. -/
inductive SyntaxError where
  | endOfValue
  | endOfText
  | endOfArray
  | endOfObject
  | expectedValue
  | expectedLiteral
  | expectedColon
  | expectedCommaOrBracket
  | expectedCommaOrBrace
  | trailingComma
  | trailingCharacters
  | keyNotText
  | invalidNumber
  | numberOutOfRange
  | invalidEscape
  | controlCharacter
  | invalidCodePoint
  | loneSurrogate
  | unfinishedSurrogate
  | tooDeep
  deriving DecidableEq, Repr

/-- The problem in words. -/
def SyntaxError.message : SyntaxError → String
  | .endOfValue => "EOF while parsing a value"
  | .endOfText => "EOF while parsing a string"
  | .endOfArray => "EOF while parsing a list"
  | .endOfObject => "EOF while parsing an object"
  | .expectedValue => "expected value"
  | .expectedLiteral => "expected ident"
  | .expectedColon => "expected `:`"
  | .expectedCommaOrBracket => "expected `,` or `]`"
  | .expectedCommaOrBrace => "expected `,` or `\x7d`"
  | .trailingComma => "trailing comma"
  | .trailingCharacters => "trailing characters"
  | .keyNotText => "key must be a string"
  | .invalidNumber => "invalid number"
  | .numberOutOfRange => "number out of range"
  | .invalidEscape => "invalid escape"
  | .controlCharacter => "control character (\\u0000-\\u001F) found while parsing a string"
  | .invalidCodePoint => "invalid unicode code point"
  | .loneSurrogate => "lone leading surrogate in hex escape"
  | .unfinishedSurrogate => "unexpected end of hex escape"
  | .tooDeep => "recursion limit exceeded"

/-- A number: whole, or with a fraction or an exponent. -/
inductive Number where
  | int (n : Int)
  | float (x : Double)
  deriving DecidableEq

/-- The sorts of JSON syntax. -/
inductive Part where
  | value
  | items
  | members

/-- A piece of a document: a value, the items of an array or the members of an object
from some point on. -/
inductive Doc : Part → Type where
  | null : Doc .value
  | bool (b : Bool) : Doc .value
  | number (n : Except SyntaxError Number) : Doc .value
  | text (s : Except SyntaxError String) : Doc .value
  | array (items : Doc .items) : Doc .value
  | object (members : Doc .members) : Doc .value
  | noItems : Doc .items
  | item (head : Doc .value) (rest : Doc .items) : Doc .items
  | noMembers : Doc .members
  | member (key : Except SyntaxError String) (value : Doc .value) (rest : Doc .members) :
      Doc .members
  /-- The text goes wrong here: `whenRead` for those who want the piece, `whenSkipped` for
  those who pass over it. -/
  | broken {p : Part} (whenRead whenSkipped : SyntaxError) : Doc p

namespace Doc

/-- Passes over a piece, which need not make sense but must be well formed. -/
def skip : {p : Part} → Doc p → Except SyntaxError Unit
  | _, .array items => items.skip
  | _, .object members => members.skip
  | _, .item head rest => do head.skip; rest.skip
  | _, .member _ value rest => do value.skip; rest.skip
  | _, .broken _ whenSkipped => .error whenSkipped
  | _, .null => .ok ()
  | _, .bool _ => .ok ()
  | _, .number _ => .ok ()
  | _, .text _ => .ok ()
  | _, .noItems => .ok ()
  | _, .noMembers => .ok ()

-- ============================================ documents of values

mutual

/-- The document of a value. -/
def ofJson : Json → Doc .value
  | .null => .null
  | .bool b => .bool b
  | .int n => .number (.ok (.int n))
  | .float x => .number (.ok (.float x))
  | .text s => .text (.ok s)
  | .array items => .array (ofItems items)
  | .object members => .object (ofMembers members)
termination_by structural v => v

/-- The items of an array value. -/
def ofItems : List Json → Doc .items
  | [] => .noItems
  | v :: rest => .item (ofJson v) (ofItems rest)
termination_by structural items => items

/-- The members of an object value. -/
def ofMembers : List (String × Json) → Doc .members
  | [] => .noMembers
  | (k, v) :: rest => .member (.ok k) (ofJson v) (ofMembers rest)
termination_by structural members => members

end

end Doc

end CallExplorer
