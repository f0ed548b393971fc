/-
Kinds of callable symbols.

Language servers number the kinds of symbols. Only a few of them can be called;
all others are of no known kind here.
-/
namespace CallExplorer

/-- The kind of a callable symbol. -/
inductive SymbolKind where
  | function
  | method
  | constructor
  | property
  | unknown
  deriving DecidableEq, Repr

namespace SymbolKind

/-- The kind with the given number. -/
def ofCode (code : Int32) : SymbolKind :=
  if code = 12 then .function
  else if code = 6 then .method
  else if code = 9 then .constructor
  else if code = 7 then .property
  else .unknown

/-- The name of a kind. -/
def name : SymbolKind → String
  | .function => "function"
  | .method => "method"
  | .constructor => "constructor"
  | .property => "property"
  | .unknown => "unknown"

end SymbolKind

end CallExplorer
