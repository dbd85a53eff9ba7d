import TicMeter.Wire
import TicMeter.Text.Bytes

/-!
# Checksum — the character that guards a group line

The checksum of `label SP value` is the sum of its bytes, cut to six bits and moved into the
printable range. Some meters send one too many on the line of the overcurrent warning; a reader may
be told to accept that line (`AdpsRepair`).
-/

namespace TicMeter

/-- Whether the miscounted overcurrent line is accepted. -/
inductive AdpsRepair
  | disabled
  | enabled
  deriving DecidableEq, Repr

namespace AdpsRepair

def ofBool (enabled : Bool) : AdpsRepair :=
  if enabled then .enabled else .disabled

def all : List AdpsRepair := [.disabled, .enabled]

def word : AdpsRepair → String
  | .disabled => "disabled"
  | .enabled => "enabled"

end AdpsRepair

namespace Checksum

/-- The sum of the bytes of `label SP value`, in a 32-bit word. -/
def byteSum (label value : String) : UInt32 :=
  (Text.bytes label ++ Wire.sp :: Text.bytes value).foldl (fun sum b => sum + b.toUInt32) 0

def ofSum (sum : UInt32) : UInt8 :=
  (sum &&& Wire.checksumMask).toUInt8 + Wire.checksumOffset

/-- The checksum character of `label SP value`. -/
def compute (label value : String) : UInt8 :=
  ofSum (byteSum label value)

/-- The outcome of a check. A mismatch says which character was expected. -/
inductive Verdict
  | valid
  | repaired
  | mismatch (expected : UInt8)
  deriving DecidableEq, Repr

namespace Verdict

def accepts : Verdict → Bool
  | .mismatch _ => false
  | _ => true

end Verdict

/-- Checks a received character. The defective meters count one more before the cut to six bits. -/
def verify (label value : String) (received : UInt8) (repair : AdpsRepair) : Verdict :=
  let sum := byteSum label value
  -- a character that is right without repair is never counted as repaired
  if received = ofSum sum then .valid
  else if repair = .enabled ∧ label = Wire.adps ∧ received = ofSum (sum + 1) then .repaired
  else .mismatch (ofSum sum)

end Checksum
end TicMeter
