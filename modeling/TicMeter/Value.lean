import TicMeter.Label
import TicMeter.Tariff
import TicMeter.Text.Bytes
import TicMeter.Timestamp

/-!
# Value — what a group line says

Every label has one rule for its value (`Label.rule`). `Label.read` decodes the text of a line by
the rule of its label, and `Label.write` gives the text back.
-/

namespace TicMeter

inductive Value
  | integer (n : UInt32)
  | period (period : TariffPeriod)
  | tomorrow (colour : DayColour)
  | schedule (group : ScheduleGroup)
  | option (option : TariffOption)
  | date (time : Timestamp)
  | text (s : String)
  deriving DecidableEq

namespace Value

def asInteger : Value → Option UInt32
  | .integer n => some n
  | _ => none

def asText : Value → Option String
  | .text s => some s
  | _ => none

def display : Value → String
  | .integer n => Nat.repr n.toNat
  | .period p => p.name
  | .tomorrow colour => colour.code
  | .schedule group => group.code
  | .option o => o.display
  | .date time => time.display
  | .text s => s

end Value

inductive Rule
  /-- decimal digits, filled up with zeros to `width` when written -/
  | integer (width : Nat)
  | period
  | tomorrow
  | schedule
  | option
  /-- between `min` and `max` printable characters -/
  | code (min max : Nat)
  | date
  deriving DecidableEq, Repr

inductive ValueError
  | unknownLabel (label : String)
  | notNumeric (label : Label) (value : String)
  | unknownCode (label : Label) (value : String)
  | invalidLength (label : Label) (value : String) (min max : Nat)
  | invalidDate (label : Label) (value : String)
  deriving DecidableEq, Repr

namespace ValueError

def message : ValueError → String
  | .unknownLabel label => "unknown label: " ++ label
  | .notNumeric label value => label.text ++ ": '" ++ value ++ "' is not a decimal number"
  | .unknownCode label value => label.text ++ ": '" ++ value ++ "' is not a known code"
  | .invalidLength label value min max =>
      label.text ++ ": '" ++ value ++ "' must be " ++ Nat.repr min ++ "..=" ++ Nat.repr max ++
        " characters"
  | .invalidDate label value => label.text ++ ": '" ++ value ++ "' is not a valid timestamp"

end ValueError

namespace Label

def rule : Label → Rule
  | .adco => .code 1 12
  | .optarif => .option
  | .isousc | .pejp => .integer 2
  | .base | .hchc | .hchp | .ejphn | .ejphpm | .bbrhcjb | .bbrhpjb | .bbrhcjw | .bbrhpjw
  | .bbrhcjr | .bbrhpjr => .integer 9
  | .ptec => .period
  | .demain => .tomorrow
  | .iinst | .iinst1 | .iinst2 | .iinst3 | .adps | .imax | .imax1 | .imax2 | .imax3
  | .adir1 | .adir2 | .adir3 => .integer 3
  | .pmax | .papp => .integer 5
  | .hhphc => .schedule
  | .motdetat => .code 6 6
  | .ppot => .code 2 2
  | .date => .date

/-- The text by which a label says that it has no value. -/
def voidText? : Label → Option String
  | .demain => some "----"
  | _ => none

end Label

namespace Value

/-- A decimal number that fits a register of 32 bits. -/
def parseInteger? (s : String) : Option UInt32 :=
  match Numeral.parse? s with
  | some n => if n < UInt32.size then some (UInt32.ofNat n) else none
  | none => none

/-- A printable code; a wrong length is found before a wrong character. -/
def parseCode (label : Label) (min max : Nat) (s : String) : Except ValueError String :=
  if Text.byteLength s < min ∨ max < Text.byteLength s then
    .error (.invalidLength label s min max)
  else if (Text.bytes s).all Text.isGraphicByte then .ok s
  else .error (.unknownCode label s)

end Value

namespace Label

/-- Decodes the text of a value. `none` stands for a label that says it has no value. -/
def read (label : Label) (s : String) : Except ValueError (Option Value) :=
  if label.voidText? = some s then .ok none
  else
    -- the closed codes fail in one way
    let code {α : Type} (wrap : α → Value) (parsed : Option α) : Except ValueError (Option Value) :=
      match parsed with
      | some a => .ok (some (wrap a))
      | none => .error (.unknownCode label s)
    match label.rule with
    | .integer _ =>
        match Value.parseInteger? s with
        | some n => .ok (some (.integer n))
        | none => .error (.notNumeric label s)
    | .period => code .period (TariffPeriod.ofCode? s)
    | .tomorrow => code .tomorrow (DayColour.ofCode? s)
    | .schedule => code .schedule (ScheduleGroup.ofCode? s)
    | .option => code .option (TariffOption.ofCode? s)
    | .code min max => (Value.parseCode label min max s).map fun text => some (.text text)
    | .date =>
        match Timestamp.parse? s with
        | some time => .ok (some (.date time))
        | none => .error (.invalidDate label s)

def readText (label value : String) : Except ValueError (Option (Label × Value)) :=
  match Label.ofText? label with
  | none => .error (.unknownLabel label)
  | some label => (label.read value).map fun decoded => decoded.map (label, ·)

/-- The text of a value under a label, if the value is of the kind that the label's rule asks for.
-/
def write (label : Label) (value : Value) : Option String :=
  match label.rule, value with
  | .integer width, .integer n => some (Numeral.padded width n.toNat)
  | .period, .period p => some p.code
  | .tomorrow, .tomorrow colour => some colour.code
  | .schedule, .schedule group => some group.code
  | .option, .option o => some o.code
  | .code .., .text s => some s
  | .date, .date time => some time.wire
  | _, _ => none

end Label
end TicMeter
