import TicMeter.Golden
import TicMeter.Program

/-!
# Tool — the programs that this library makes

Beside the main program there is one that stores the sample captures and one that makes the stored
reports anew. The name under which a program is called says which one is meant.
-/

namespace TicMeter

inductive Tool
  | decoder
  | samples
  | golden
  deriving DecidableEq, Repr

namespace Tool

def ofName : String → Tool
  | "samples" => .samples
  | "golden" => .golden
  | _ => .decoder

def places (tool : Tool) (arguments : List String) : List String :=
  match tool with
  | .samples | .golden => [Path.join Samples.root "**"]
  | .decoder =>
      match CommandLine.parse? arguments with
      | some ⟨_, .decode request⟩ => request.input :: request.report.toList
      | _ => []

def reads (tool : Tool) (path : String) : Bool :=
  match tool with
  | .samples => false
  | .golden => true
  | .decoder => DecodeRequest.isCapturePath path

/-- Runs a program, unless its arguments are not in order. Only the main program has any. -/
def run? (tool : Tool) (arguments : List String) (environment : Environment) : Option Run :=
  match tool with
  | .decoder => Program.run? arguments environment
  | .samples => some (Samples.write environment.disk)
  | .golden => some (Golden.regenerate environment.disk)

end Tool
end TicMeter
