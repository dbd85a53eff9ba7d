import TicMeter.Checksum
import TicMeter.Text.Numeral

/-!
# GroupLine — one line of a frame

A group line is `label SP value SP checksum`; the separator before the checksum may be missing.
`parse` reads the bytes between the delimiters, `encode` writes them with the delimiters, and
`encodeFrame` puts lines between the bytes that open and close a frame.
-/

namespace TicMeter

structure GroupLine where
  label : String
  value : String
  checksum : UInt8
  deriving DecidableEq, Repr

inductive LineError
  | empty
  | tooLong (length max : Nat)
  | nonAscii (byte : UInt8)
  | missingChecksum
  | missingSeparator
  | emptyLabel
  | checksumMismatch (label : String) (expected actual : UInt8)
  deriving DecidableEq, Repr

namespace LineError

def message : LineError → String
  | .empty => "line is empty"
  | .tooLong length max => s!"line too long: {length} bytes (max {max})"
  | .nonAscii byte => "line contains non-ASCII byte 0x" ++ Numeral.hexByte byte
  | .missingChecksum => "line has no trailing checksum character"
  | .missingSeparator => "line has no separator between label and value"
  | .emptyLabel => "line has an empty label"
  | .checksumMismatch label expected actual =>
      "checksum mismatch on " ++ label ++ ": expected '" ++ Text.ofAscii [expected] ++
        "', got '" ++ Text.ofAscii [actual] ++ "'"

/-- Whether the line could not be taken apart at all. -/
def isUnreadable : LineError → Bool
  | .checksumMismatch .. => false
  | _ => true

end LineError

namespace GroupLine

/-- Takes a line apart: the last byte is the checksum, the label goes up to the first separator, and
one separator at the end of the rest is dropped from the value. -/
def parse (line : List UInt8) : Except LineError GroupLine :=
  if line.isEmpty then .error .empty
  else if Wire.maxLineLength < line.length then
    .error (.tooLong line.length Wire.maxLineLength)
  else
    match line.find? fun b => !Text.isAsciiByte b with
    | some byte => .error (.nonAscii byte)
    | none =>
        -- the value may begin and end with separators: only one at the end belongs to the checksum
        let body := line.dropLast
        let label := body.takeWhile (· != Wire.sp)
        let content := if body.getLast? = some Wire.sp then body.dropLast else body
        if body.isEmpty then .error .missingChecksum
        else if !body.contains Wire.sp then .error .missingSeparator
        else if label.isEmpty then .error .emptyLabel
        else
          .ok { label := Text.ofAscii label
                value := Text.ofAscii (content.drop (label.length + 1))
                checksum := line.getLastD 0 }

/-- The bytes of `LF label SP value SP checksum CR`. -/
def encode (label value : String) : List UInt8 :=
  Wire.lf :: Text.bytes label ++ Wire.sp :: Text.bytes value ++
    [Wire.sp, Checksum.compute label value, Wire.cr]

def encodeFrame (lines : List (String × String)) : List UInt8 :=
  Wire.stx :: lines.flatMap (fun (label, value) => encode label value) ++ [Wire.etx]

end GroupLine
end TicMeter
