/-!
# AccessPolicy.Json.Flaw

How a text fails to be a document.
-/

namespace AccessPolicy.Json

/-- How a text fails to be a document. -/
inductive Flaw where
  /-- Something stands where it cannot stand. -/
  | malformed
  /-- The text ends too early. -/
  | unfinished
  deriving DecidableEq, Repr

/-- The flaw of a text that should go on. -/
def Flaw.atEnd (rest : List Char) : Flaw := if rest.isEmpty then .unfinished else .malformed

/-- A place at which no token can be read. -/
inductive Break where
  /-- The text ends. -/
  | ended
  /-- Another token stands there, or a character that begins none. -/
  | stray
  /-- A word goes wrong. -/
  | word (flaw : Flaw)
  /-- A numeral goes wrong. -/
  | numeral (flaw : Flaw)
  /-- A string literal goes wrong: when its text is needed, and when it is passed
  over. -/
  | literal (used skipped : Flaw)
  deriving DecidableEq, Repr

namespace Break

/-- The flaw where a value is needed. -/
def used : Break → Flaw
  | .ended => .unfinished
  | .stray => .malformed
  | .word flaw => flaw
  | .numeral flaw => flaw
  | .literal used _ => used

/-- The flaw where a value is passed over. -/
def skipped : Break → Flaw
  | .ended => .unfinished
  | .stray => .malformed
  | .word flaw => flaw
  | .numeral _ => .malformed
  | .literal _ skipped => skipped

/-- The flaw where nothing but a string can stand and its text is needed. -/
def usedName : Break → Flaw
  | .ended => .unfinished
  | .literal used _ => used
  | _ => .malformed

/-- The flaw where nothing but a string can stand and is passed over. -/
def skippedName : Break → Flaw
  | .ended => .unfinished
  | .literal _ skipped => skipped
  | _ => .malformed

end Break

end AccessPolicy.Json
