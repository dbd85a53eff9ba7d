/-!
# CommandLine — what the arguments ask for

The program has the commands `capture decode` (also called `capture analyse`) and `checksum`.
Options may stand anywhere behind the command they belong to; `-v` may stand behind any.
`CommandLine.parse?` gives the invocation, or nothing if the arguments are not in order.

Calls that ask for the help text or the version (`--help`, `-h`, the command `help`, `--version`,
`-V`) are left out, and so are the texts for arguments that are not in order: `parse?` gives nothing
for either, and the program answers both with `usage`.
-/

namespace TicMeter

structure DecodeRequest where
  input : String
  /-- where the report goes; `none` is standard output -/
  report : Option String := none
  pretty : Bool := false
  quiet : Bool := false
  autoRepairAdps : Bool := false
  /-- rejected frames make the command fail -/
  strict : Bool := false
  listErrors : Bool := false
  deriving DecidableEq, Repr

inductive Request
  | decode (request : DecodeRequest)
  | checksum (label value : String)
  deriving DecidableEq, Repr

structure Invocation where
  verbosity : Nat
  request : Request
  deriving DecidableEq, Repr

namespace CommandLine

def usage : List String :=
  ["Usage: teleinfo capture decode INPUT (-o REPORT | --stdout) [--pretty | --compact] [--quiet]",
    "         [--auto-repair-adps] [--strict] [--list-errors] [-v]...",
    "       teleinfo checksum LABEL VALUE"]

inductive Switch
  | verbose | report | stdout | pretty | compact | quiet | autoRepairAdps | strict | listErrors
  deriving DecidableEq, Repr

namespace Switch

def long : Switch → String
  | .verbose => "verbose"
  | .report => "report"
  | .stdout => "stdout"
  | .pretty => "pretty"
  | .compact => "compact"
  | .quiet => "quiet"
  | .autoRepairAdps => "auto-repair-adps"
  | .strict => "strict"
  | .listErrors => "list-errors"

def short? : Switch → Option Char
  | .verbose => some 'v'
  | .report => some 'o'
  | _ => none

def takesValue : Switch → Bool
  | .report => true
  | _ => false

def ofDecode : List Switch :=
  [.verbose, .report, .stdout, .pretty, .compact, .quiet, .autoRepairAdps, .strict, .listErrors]

end Switch

inductive Word
  | switch (switch : Switch)
  | valued (switch : Switch) (value : String)
  | operand (text : String)
  deriving DecidableEq, Repr

/-- What an argument is by its looks. -/
inductive Shape
  | rest
  | long (name : List Char) (value : Option (List Char))
  | short (letters : List Char)
  | plain

namespace Shape

/-- A lone dash is a plain argument. -/
def of (argument : String) : Shape :=
  match argument.toList with
  | ['-', '-'] => .rest
  | '-' :: '-' :: body =>
      match body.dropWhile (· ≠ '=') with
      | _ :: value => .long (body.takeWhile (· ≠ '=')) (some value)
      | [] => .long body none
  | '-' :: c :: letters => .short (c :: letters)
  | _ => .plain

def isPlain : Shape → Bool
  | .plain => true
  | _ => false

end Shape

/-- What a run of one-letter options says: the words, and the option that waits for its value in the
next argument. -/
def letters (switches : List Switch) : List Char → Option (List Word × Option Switch)
  | [] => some ([], none)
  | c :: rest => do
      let switch ← switches.find? (·.short? == some c)
      if switch.takesValue then
        match rest with
        | [] => some ([], some switch)
        -- one equals sign between the letter and its value is not part of the value
        | '=' :: value => some ([.valued switch (String.ofList value)], none)
        | value => some ([.valued switch (String.ofList value)], none)
      else
        let (words, waiting) ← letters switches rest
        some (.switch switch :: words, waiting)

def written (switches : List Switch) (name : List Char) (value : Option (List Char)) :
    Option (List Word × Option Switch) := do
  let switch ← switches.find? (·.long.toList == name)
  match switch.takesValue, value with
  | true, some value => some ([.valued switch (String.ofList value)], none)
  | true, none => some ([], some switch)
  | false, none => some ([.switch switch], none)
  | false, some _ => none

/-- Understands the arguments behind a command: its words, up to the first plain argument if that
names a further command (`hasCommands`), which is given with what follows it. -/
def scan (switches : List Switch) (hasCommands : Bool) :
    Option Switch → List String → Option (List Word × Option (String × List String))
  | some _, [] => none
  | none, [] => some ([], none)
  | some switch, value :: rest => do
      if (Shape.of value).isPlain then
        let (words, next) ← scan switches hasCommands none rest
        some (.valued switch value :: words, next)
      else none
  | none, argument :: rest =>
      match Shape.of argument with
      -- after two dashes no argument names a command
      | .rest => if hasCommands then none else some (rest.map .operand, none)
      | .long name value => do
          let (words, waiting) ← written switches name value
          let (more, next) ← scan switches hasCommands waiting rest
          some (words ++ more, next)
      | .short cs => do
          let (words, waiting) ← letters switches cs
          let (more, next) ← scan switches hasCommands waiting rest
          some (words ++ more, next)
      | .plain =>
          if hasCommands then some ([], some (argument, rest))
          else do
            let (words, next) ← scan switches hasCommands none rest
            some (.operand argument :: words, next)

/-! ## Words of a command -/

def count (words : List Word) (switch : Switch) : Nat :=
  (words.filter fun word => word = .switch switch).length

def values (words : List Word) (switch : Switch) : List String :=
  words.filterMap fun
    | .valued s value => if s = switch then some value else none
    | _ => none

def operands (words : List Word) : List String :=
  words.filterMap fun
    | .operand text => some text
    | _ => none

/-- The request that the words behind `decode` make. Every option but the verbosity may come once.
-/
def decodeRequest? (words : List Word) : Option DecodeRequest := do
  let has (switch : Switch) : Bool := count words switch = 1
  let [input] := operands words | none
  if Switch.ofDecode.any fun switch => switch ≠ .verbose && 1 < count words switch then none
  else if input.isEmpty || (has .pretty && has .compact) then none
  else
    let report ←
      match values words .report, has .stdout with
      | [], true => some none
      | [path], false => if path.isEmpty then none else some (some path)
      | _, _ => none
    some { input
           report
           pretty := has .pretty
           quiet := has .quiet
           autoRepairAdps := has .autoRepairAdps
           strict := has .strict
           listErrors := has .listErrors }

def checksumRequest? (words : List Word) : Option Request :=
  match operands words with
  | [label, value] => some (.checksum label value)
  | _ => none

/-- The verbosity of the innermost command that was given one. -/
def verbosity (levels : List (List Word)) : Nat :=
  levels.foldl
    (fun outer words =>
      let inner := count words .verbose
      if inner = 0 then outer else inner)
    0

def parse? (arguments : List String) : Option Invocation := do
  let (outer, some (command, rest)) ← scan [.verbose] true none arguments | none
  match command with
  | "checksum" =>
      let (words, _) ← scan [.verbose] false none rest
      some ⟨verbosity [outer, words], ← checksumRequest? words⟩
  | "capture" =>
      let (middle, some (command, rest)) ← scan [.verbose] true none rest | none
      if command = "decode" ∨ command = "analyse" then
        let (words, _) ← scan Switch.ofDecode false none rest
        some ⟨verbosity [outer, middle, words], .decode (← decodeRequest? words)⟩
      else none
  | _ => none

end CommandLine
end TicMeter
