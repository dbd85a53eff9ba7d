import TicMeter.Report.Json
import TicMeter.Samples

/-!
# Golden — stored reports made anew

Beside every capture below `Samples.root` stands a stored report of it. `Golden.regenerate`
decodes the captures again, each with the options that its stored report was made with.
-/

namespace TicMeter
namespace Golden

/-- The options of a stored report, or the usual ones where there is no report that can be read. -/
def recordedOptions (disk : Disk) (path : String) : Options :=
  let report? := do
    let bytes ← (disk.read path).toOption
    let text ← Text.ofBytes? bytes
    Report.parse? text
  match report? with
  | some report => report.options
  | none => {}

/-- What the device does when it is asked for the bytes of a capture. -/
def scriptOf (disk : Disk) (path : String) : Script :=
  match disk.read path with
  | .ok bytes => [.bytes bytes]
  | .error why => [.fail why.message]

def regenerateOne (disk : Disk) (input output : String) : Except String Disk :=
  let feed := BufferedFeed.ofScript (scriptOf disk input) Wire.readSize
  match (Capture.decode input feed (recordedOptions disk output)).result with
  | .error why => .error ("decoding failed for " ++ input ++ ": " ++ why.message)
  | .ok report =>
      match disk.write output (Text.bytes (report.render .compact)) with
      | .ok disk => .ok disk
      | .error why => .error ("failed to write " ++ output ++ ": " ++ why.message)

/-- Goes through the names in the root until one fails. -/
def regenerateEach (disk : Disk) : List String → Disk × Option String
  | [] => (disk, none)
  | name :: rest =>
      let directory := Samples.directoryOf name
      let input := Path.join directory "input.raw"
      -- what is no directory, or has no capture in it, is passed over
      if disk.isDirectory directory && disk.reaches input then
        match regenerateOne disk input (Path.join directory "expected_report.json") with
        | .ok disk => regenerateEach disk rest
        | .error problem => (disk, some problem)
      else regenerateEach disk rest

def failed (disk : Disk) (problem : String) : Run :=
  ⟨disk, 1, "", Run.text ["error: " ++ problem]⟩

/-- The run that takes the names in the root in this order. -/
def regenerateIn (disk : Disk) (names : List String) : Run :=
  match regenerateEach disk names with
  | (disk, none) => ⟨disk, 0, "", ""⟩
  | (disk, some problem) => failed disk problem

def unlisted (disk : Disk) (why : OsError) : Run :=
  failed disk ("failed to read " ++ Samples.root ++ ": " ++ why.message)

def regenerate (disk : Disk) : Run :=
  match disk.list Samples.root with
  | .error why => unlisted disk why
  | .ok names => regenerateIn disk names

end Golden
end TicMeter
