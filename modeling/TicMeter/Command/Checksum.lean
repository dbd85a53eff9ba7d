import TicMeter.Command

/-!
# Checksum — the command that computes the checksum of one line

It prints the checksum and the whole line, and what the value means if the label is known.
-/

namespace TicMeter
namespace ChecksumRequest

/-- Why a label and a value make no line. -/
def problem? (label value : String) : Option Refusal :=
  let length := Text.byteLength label + Text.byteLength value + 3
  if label.isEmpty || !(Text.bytes label).all Text.isGraphicByte then some (.invalidLabel label)
  else if !(Text.bytes value).all Text.isAsciiByte then some (.invalidValue value)
  else if Wire.maxLineLength < length then some (.lineTooLong length)
  else none

/-- What is said about the meaning of the value: a line of output or a warning. -/
def meaning (label value : String) : Except String String :=
  match Label.readText label value with
  | .ok (some (_, decoded)) => .ok ("decoded: " ++ decoded.display)
  | .ok none => .ok "decoded: (not applicable)"
  | .error (.unknownLabel _) =>
      .error ("warning: " ++ label ++ " is not part of the historic label set")
  | .error why => .error ("warning: " ++ why.message)

def execute (label value : String) (run : Run) : Run :=
  match problem? label value with
  | some refusal => run.refuse refusal
  | none =>
      let checksum := Text.ofAscii [Checksum.compute label value]
      let output :=
        ["checksum: " ++ checksum, "line: " ++ label ++ " " ++ value ++ " " ++ checksum]
      match meaning label value with
      | .ok line => { run with stdout := run.stdout ++ Run.text (output ++ [line]) }
      | .error warning =>
          { run.say [warning] with stdout := run.stdout ++ Run.text output }

end ChecksumRequest
end TicMeter
