import TicMeter.Text.Regex.Meaning
import TicMeter.Text.Regex.Reader
import TicMeter.Text.Regex.Search
import TicMeter.Text.Regex.Size

/-!
# Compiled — expressions from their text

A text spells an expression if it has no faults, if the expression does not take too much room in
either direction, and if all conditions in it can be decided.
-/

namespace TicMeter
namespace Regex

inductive Problem
  | fault (fault : Fault)
  | tooLarge
  | undecidable
  deriving DecidableEq, Repr

namespace Problem

def message (text : String) : Problem → String
  | .fault f => f.text text
  | .tooLarge => s!"Compiled regex exceeds size limit of {sizeLimit} bytes."
  | .undecidable => "error building NFA"

end Problem

def ofText (text : String) : Except Problem Regex :=
  match Pattern.ofText text with
  | .error f => .error (.fault f)
  | .ok pattern =>
      match pattern.meaning {} with
      | .error f => .error (.fault f)
      | .ok (r, _) =>
          if !r.fits .forwards then .error .tooLarge
          else if !r.isDecidable then .error .undecidable
          else if !r.fits .backwards then .error .tooLarge
          else .ok r

end Regex
end TicMeter
