import Std.Time.DateTime.Timestamp
import TicMeter.Clock
import TicMeter.Tool

/-!
# Main — the command line

The part of the machine's disk that a program looks at is loaded, the program runs on it, and what
it changed is stored again.
-/

namespace TicMeter
namespace Machine

def pathOf (place : Place) : String :=
  "/" ++ "/".intercalate place

/-- Loads what stands at a place, if anything, and everything below it if `deep`. Files that are not
read are taken as empty. -/
partial def load (tool : Tool) (deep : Bool) (place : Place) (disk : Disk) : IO Disk := do
  let .ok path ← (IO.FS.realPath (pathOf place)).toBaseIO | return disk
  if ← path.isDir then
    let disk := disk.install place .directory
    if deep then
      (← path.readDir).foldlM
        (fun disk entry => load tool true (place ++ [entry.fileName]) disk) disk
    else return disk
  else
    let bytes ← if tool.reads (pathOf place) then IO.FS.readBinFile path else pure .empty
    return disk.install place (.file bytes.toList)

/-- Loads what a path passes through, and everything that a pattern may match. -/
def loadPath (tool : Tool) (disk : Disk) (path : String) : IO Disk := do
  let mut place := disk.origin path
  let mut disk := disk
  for name in Glob.fixedSteps path do
    place := Disk.next place name
    disk ← load tool false place disk
  load tool (Glob.isPattern path) place disk

def store (change : Place × Entry) : IO Unit :=
  match change with
  | (place, .directory) => IO.FS.createDirAll (pathOf place)
  | (place, .file bytes) => IO.FS.writeBinFile (pathOf place) ⟨bytes.toArray⟩

def snapshot (tool : Tool) (arguments : List String) : IO Disk := do
  let workingDir := Path.steps (← IO.currentDir).toString
  let empty : Disk := { entries := [], workingDir }
  (tool.places arguments).foldlM (loadPath tool) (empty.install workingDir .directory)

/-- Runs the program that is meant by the name under which it was called. -/
def run (arguments : List String) : IO UInt32 := do
  let tool := Tool.ofName ((← IO.appPath).fileName.getD "")
  let disk ← snapshot tool arguments
  let filterText ← IO.getEnv "RUST_LOG"
  let nanoseconds := (← Std.Time.Timestamp.now).toNanosecondsSinceUnixEpoch.val.toNat
  match tool.run? arguments { disk, filterText, now := Clock.text nanoseconds } with
  | some run =>
      (disk.changes run.disk).forM store
      IO.eprint run.stderr
      IO.print run.stdout
      return run.exitCode.toUInt32
  | none =>
      IO.eprint (Run.text CommandLine.usage)
      return Run.refused.toUInt32

end Machine
end TicMeter

def main (arguments : List String) : IO UInt32 :=
  TicMeter.Machine.run arguments
