import CaptureTheFlag.Regex.Automaton.Size
import CaptureTheFlag.Regex.Meaning
import CaptureTheFlag.Regex.Pattern
import CaptureTheFlag.Regex.Search

/-!
# Compiling patterns

The text of a pattern becomes an expression, unless the text is wrong or the expression too large.

* `compile?`: the expression of a pattern.
* `compileWhole?`: the expression that matches texts from their beginning to their end.
-/

namespace CaptureTheFlag.Regex

/-- The expression of a pattern. -/
def compile? (pattern : String) : Option Expr := do
  let p ← Pattern.parse? pattern
  let t ← p.term?
  if t.fits then some t.expr else none

/-- The pattern put into a group between the ends of the text. -/
def whole (pattern : String) : String := "^(?:" ++ pattern ++ ")$"

/-- The expression of a pattern between the ends of the text. -/
def compileWhole? (pattern : String) : Option Expr := compile? (whole pattern)

end CaptureTheFlag.Regex
