/-
The modes of a pattern.

Flags between parentheses decide how the rest of their group is read. Three of them
matter to whether a pattern is well formed: regardless of case, by Unicode, and
with blanks and comments in between. The others only change what is matched.

A pattern by Unicode has no use for a class of bytes, and one by bytes must match
text all the same. There are no tables of cases here, so that nothing with a case
can be asked for regardless of it, except by bytes.
-/
import CallExplorer.Text.Blank

namespace CallExplorer.Pattern

/-- How a pattern is read at some point. -/
structure Mode where
  anyCase : Bool := false
  unicode : Bool := true
  spaced : Bool := false
  deriving DecidableEq, Repr

/-- What is left behind blanks and comments. A comment goes on to the end of its line. -/
def skipSpace : (inComment : Bool) → List Char → List Char
  | _, [] => []
  | true, c :: cs => skipSpace (c != '\n') cs
  | false, c :: cs =>
    if Text.isBlank c then skipSpace false cs
    else if c = '#' then skipSpace true cs
    else c :: cs

namespace Mode

/-- What is left behind what the mode passes over. -/
def skip (m : Mode) (cs : List Char) : List Char := if m.spaced then skipSpace false cs else cs

/-- The next character that counts. Of a comment only the mark in front is passed over. -/
def peek (m : Mode) (cs : List Char) : Option Char :=
  if m.spaced then
    match Text.trimStart cs with
    | '#' :: rest => (Text.trimStart rest).head?
    | rest => rest.head?
  else cs.head?

/-- Turns a flag on or off; nothing if there is no such flag. -/
def set (m : Mode) (flag : Char) (on : Bool) : Option Mode :=
  if flag = 'i' then some { m with anyCase := on }
  else if flag = 'u' then some { m with unicode := on }
  else if flag = 'x' then some { m with spaced := on }
  else if flag = 'm' || flag = 's' || flag = 'U' || flag = 'R' then some m
  else none

/-- Reads flags up to the colon or the parenthesis behind them. No flag may come twice, nor
may the minus sign, behind which flags are turned off and which must not come last. Gives
the mode, whether there were any flags, and what is left. -/
def readFlags (m : Mode) (seen : List Char) : List Char → Option (Mode × Bool × List Char)
  | [] => none
  | c :: rest =>
    if c = ':' || c = ')' then
      if seen.head? = some '-' then none else some (m, !seen.isEmpty, c :: rest)
    else if seen.contains c then none
    else if c = '-' then m.readFlags (c :: seen) rest
    else (m.set c (!seen.contains '-')).bind fun m => m.readFlags (c :: seen) rest

end Mode

end CallExplorer.Pattern
