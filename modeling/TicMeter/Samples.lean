import TicMeter.Command
import TicMeter.Text.Quoted

/-!
# Samples — recordings made up for tests

Five captures: clean frames of three kinds of meters, a stream with every kind of damage, and a
frame from a meter that miscounts its overcurrent line. `Samples.write` stores each in a directory
of its own.
-/

namespace TicMeter
namespace Samples

def adcoSinglePhase : String := "031762120162"
def adcoTempo : String := "021528603314"
def adcoThreePhase : String := "031428097115"

/-! ## Lines -/

def lineWith (label value : String) (checksum : UInt8) : List UInt8 :=
  let line := GroupLine.encode label value
  line.set (line.length - 2) checksum

/-- The checksum that a miscounting meter sends on its overcurrent line. -/
def miscounted (value : String) : UInt8 :=
  let sum := (Text.bytes Wire.adps ++ Wire.sp :: Text.bytes value).foldl
    (fun sum b => sum + b.toUInt32) 0
  ((sum + 1) &&& Wire.checksumMask).toUInt8 + Wire.checksumOffset

/-- A frame of lines that are encoded already. -/
def frameOf (lines : List (List UInt8)) : List UInt8 :=
  Wire.stx :: lines.flatten ++ [Wire.etx]

def baseLines (register current : String) : List (String × String) :=
  [("ADCO", adcoSinglePhase), ("OPTARIF", "BASE"), ("ISOUSC", "30"), ("BASE", register),
    ("PTEC", "TH.."), ("IINST", current), ("IMAX", "090"), ("MOTDETAT", "000000")]

def tempoLines (period tomorrow : String) : List (String × String) :=
  [("ADCO", adcoTempo), ("OPTARIF", "BBRJ"), ("ISOUSC", "45"), ("BBRHCJB", "001234567"),
    ("BBRHPJB", "000765432"), ("BBRHCJW", "000011111"), ("BBRHPJW", "000022222"),
    ("BBRHCJR", "000003333"), ("BBRHPJR", "000004444"), ("PTEC", period), ("DEMAIN", tomorrow),
    ("IINST", "012"), ("IMAX", "060"), ("PAPP", "02830"), ("HHPHC", "Y"), ("MOTDETAT", "000000"),
    ("DATE", "E240305143000")]

def threePhaseLines (power : String) : List (String × String) :=
  [("ADCO", adcoThreePhase), ("OPTARIF", "HC.."), ("ISOUSC", "20"), ("HCHC", "001065963"),
    ("HCHP", "001521211"), ("PTEC", "HP.."), ("IINST1", "001"), ("IINST2", "000"),
    ("IINST3", "002"), ("IMAX1", "024"), ("IMAX2", "025"), ("IMAX3", "026"), ("PMAX", "07340"),
    ("PAPP", power), ("HHPHC", "A"), ("MOTDETAT", "000000"), ("PPOT", "00")]

/-! ## Captures -/

def cbemmBase : List UInt8 :=
  [0x00, 0xFF, Wire.cr, Wire.lf] ++
    [("190575", "001"), ("190576", "002")].flatMap fun (register, current) =>
      GroupLine.encodeFrame ((baseLines register current).insertIdx 7 ("HHPHC", "A"))

def cbemmIccTempo : List UInt8 :=
  GroupLine.encodeFrame (tempoLines "HPJB" "----") ++
    GroupLine.encodeFrame (tempoLines "HCJB" "ROUG")

def cbetmThreePhase : List UInt8 :=
  GroupLine.encodeFrame (threePhaseLines "00640") ++
    GroupLine.encodeFrame
      [("ADCO", adcoThreePhase), ("IINST1", "031"), ("IINST2", "002"), ("IINST3", "004"),
        ("ADIR1", "031"), ("ADIR2", "000"), ("ADIR3", "000")] ++
    GroupLine.encodeFrame (threePhaseLines "00650")

/-- Lines damaged on the way; a frame that is broken off; labels that are foreign, unknown,
unreadable and repeated; too few labels; and a frame that the end of the recording cuts off. -/
def damagedStream : List UInt8 :=
  let address := GroupLine.encode "ADCO" adcoSinglePhase
  let contract := GroupLine.encode "ISOUSC" "30"
  frameOf
      [address, GroupLine.encode "OPTARIF" "BASE", contract, GroupLine.encode "BASE" "190575",
        GroupLine.encode "PTEC" "TH..", GroupLine.encode "IINST" "001",
        Wire.lf :: Text.bytes "NOSEP" ++ [Wire.cr], lineWith "ADPS" "037" (miscounted "037"),
        GroupLine.encode "IMAX" "090",
        lineWith "MOTDETAT" "000000" (Checksum.compute "MOTDETAT" "000000" ^^^ 0x01)] ++
    Wire.stx :: address ++ contract ++ [Wire.eot] ++
    Text.bytes "garbage" ++
    GroupLine.encodeFrame
      [("ADCO", adcoSinglePhase), ("ISOUSC", "30"), ("BASE", "190576"), ("HCHC", "000000042"),
        ("PTEC", "TH.."), ("IINST", "001"), ("IINST", "003"), ("IMAX", "090"), ("PAPP", "0A270"),
        ("FOO", "12")] ++
    GroupLine.encodeFrame [("ADCO", adcoSinglePhase), ("PAPP", "00270")] ++
    Wire.stx :: address

def adpsAutoRepair : List UInt8 :=
  let lines := (baseLines "190575" "031").map fun (label, value) => GroupLine.encode label value
  frameOf (lines.insertIdx 6 (lineWith "ADPS" "037" (miscounted "037")))

def captures : List (String × List UInt8) :=
  [("cbemm_base", cbemmBase), ("cbemm_icc_tempo", cbemmIccTempo),
    ("cbetm_three_phase", cbetmThreePhase), ("damaged_stream", damagedStream),
    ("adps_auto_repair", adpsAutoRepair)]

/-! ## Storing -/

def root : String := "tests/golden"

def directoryOf (name : String) : String :=
  Path.join root name

def writeOne (disk : Disk) (name : String) (bytes : List UInt8) : Disk × Option String :=
  let directory := directoryOf name
  match disk.createDirectories directory with
  | (disk, some why) => (disk, some ("failed to create " ++ directory ++ ": " ++ why.message))
  | (disk, none) =>
      let path := Path.join directory "input.raw"
      match disk.write path bytes with
      | .ok disk => (disk, none)
      | .error why => (disk, some ("failed to write " ++ path ++ ": " ++ why.message))

/-- Stores captures until one fails. -/
def writeAll (disk : Disk) : List (String × List UInt8) → Disk × Option String
  | [] => (disk, none)
  | (name, bytes) :: rest =>
      match writeOne disk name bytes with
      | (disk, none) => writeAll disk rest
      | failed => failed

def write (disk : Disk) : Run :=
  match writeAll disk captures with
  | (disk, none) => ⟨disk, 0, "", ""⟩
  | (disk, some problem) => ⟨disk, 1, "", Run.text ["Error: " ++ Text.quoted problem]⟩

end Samples
end TicMeter
