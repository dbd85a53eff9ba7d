import TicMeter.Command.Checksum
import TicMeter.Command.Decode

/-!
# Program — the main program as a function

From the arguments, the filter text of the environment, the time and the disk follow the outputs,
the exit code and the new disk. Arguments that are not in order give nothing.
-/

namespace TicMeter

structure Environment where
  disk : Disk
  /-- the filter for notices, if one is set -/
  filterText : Option String
  /-- the time, as a report writes it -/
  now : String

namespace Program

def run? (arguments : List String) (environment : Environment) : Option Run := do
  let invocation ← CommandLine.parse? arguments
  let quiet :=
    match invocation.request with
    | .decode request => request.quiet
    | .checksum .. => false
  let filter := LogFilter.ofVerbosity quiet invocation.verbosity
  let (filter, warnings) :=
    match environment.filterText with
    | some text => filter.refine text
    | none => (filter, [])
  let run : Run := ⟨environment.disk, 0, "", Run.text warnings⟩
  match invocation.request with
  | .decode request => return request.execute filter environment.now run
  | .checksum label value => return ChecksumRequest.execute label value run

end Program
end TicMeter
