/-!
# Wire — control bytes and limits of the serial telemetry format

A meter sends frames between `stx` and `etx`; inside a frame every group line stands between `lf`
and `cr`, with `sp` between its parts. `eot` breaks a transmission off.
-/

namespace TicMeter
namespace Wire

/-- Opens a frame. -/
def stx : UInt8 := 0x02
/-- Closes a frame. -/
def etx : UInt8 := 0x03
/-- Breaks a frame off. -/
def eot : UInt8 := 0x04
/-- Opens a group line. -/
def lf : UInt8 := 0x0A
/-- Closes a group line. -/
def cr : UInt8 := 0x0D
def sp : UInt8 := 0x20

/-- The low bits of the byte sum that the checksum keeps. -/
def checksumMask : UInt32 := 0x3F
/-- Added to the masked sum, so that the checksum is a printable character. -/
def checksumOffset : UInt8 := 0x20

/-- Label of the overcurrent warning, the line that the known meter defect miscounts. -/
def adps : String := "ADPS"

/-- The most bytes a group line may have between its delimiters. -/
def maxLineLength : Nat := 64

def readSize : Nat := 8192

end Wire
end TicMeter
