import TicMeter.Text.Bytes

/-!
# Tariff — the closed codes that tariff lines carry

The running tariff period, the colour announced for tomorrow, the schedule group and the subscribed
option each have a short list of wire codes. The coloured option also carries a byte that programmes
the two switched circuits.
-/

namespace TicMeter

/-! ## Tariff period -/

inductive TariffPeriod
  | th | hc | hp | hn | pm | hcjb | hcjw | hcjr | hpjb | hpjw | hpjr
  deriving DecidableEq, Repr

namespace TariffPeriod

def all : List TariffPeriod :=
  [.th, .hc, .hp, .hn, .pm, .hcjb, .hcjw, .hcjr, .hpjb, .hpjw, .hpjr]

def code : TariffPeriod → String
  | .th => "TH.."
  | .hc => "HC.."
  | .hp => "HP.."
  | .hn => "HN.."
  | .pm => "PM.."
  | .hcjb => "HCJB"
  | .hcjw => "HCJW"
  | .hcjr => "HCJR"
  | .hpjb => "HPJB"
  | .hpjw => "HPJW"
  | .hpjr => "HPJR"

/-- The code without the dots that fill it up. -/
def name (period : TariffPeriod) : String :=
  String.ofList (period.code.toList.reverse.dropWhile (· = '.')).reverse

def word : TariffPeriod → String
  | .th => "Th"
  | .hc => "Hc"
  | .hp => "Hp"
  | .hn => "Hn"
  | .pm => "Pm"
  | .hcjb => "Hcjb"
  | .hcjw => "Hcjw"
  | .hcjr => "Hcjr"
  | .hpjb => "Hpjb"
  | .hpjw => "Hpjw"
  | .hpjr => "Hpjr"

def ofCode? (s : String) : Option TariffPeriod :=
  all.find? (·.code == s)

end TariffPeriod

/-! ## Colour of tomorrow -/

inductive DayColour
  | bleu | blanc | rouge
  deriving DecidableEq, Repr

namespace DayColour

def all : List DayColour := [.bleu, .blanc, .rouge]

def code : DayColour → String
  | .bleu => "BLEU"
  | .blanc => "BLAN"
  | .rouge => "ROUG"

def word : DayColour → String
  | .bleu => "Bleu"
  | .blanc => "Blanc"
  | .rouge => "Rouge"

def ofCode? (s : String) : Option DayColour :=
  all.find? (·.code == s)

end DayColour

/-! ## Schedule group -/

/-- The group that fixes the hours of the cheaper period. -/
inductive ScheduleGroup
  | a | c | d | e | y
  deriving DecidableEq, Repr

namespace ScheduleGroup

def all : List ScheduleGroup := [.a, .c, .d, .e, .y]

def code : ScheduleGroup → String
  | .a => "A"
  | .c => "C"
  | .d => "D"
  | .e => "E"
  | .y => "Y"

def ofCode? (s : String) : Option ScheduleGroup :=
  all.find? (·.code == s)

end ScheduleGroup

/-! ## Circuit programme -/

inductive FirstCircuit
  | a | b | c
  deriving DecidableEq, Repr

namespace FirstCircuit

def all : List FirstCircuit := [.a, .b, .c]

def word : FirstCircuit → String
  | .a => "A"
  | .b => "B"
  | .c => "C"

/-- The two low bits of the programme byte; zero is no programme. -/
def bits : FirstCircuit → UInt8
  | .a => 1
  | .b => 2
  | .c => 3

end FirstCircuit

/-- The programme of the second switched circuit, `P0` to `P7`. -/
abbrev SecondCircuit := Fin 8

namespace SecondCircuit

def all : List SecondCircuit := [0, 1, 2, 3, 4, 5, 6, 7]

def word (programme : SecondCircuit) : String :=
  "P" ++ Nat.repr programme.val

end SecondCircuit

structure CircuitProgramme where
  circuit1 : FirstCircuit
  circuit2 : SecondCircuit
  deriving DecidableEq, Repr

namespace CircuitProgramme

/-- Programme bytes are printable from here on. -/
def base : UInt8 := 0x40

/-- Bits 0 and 1 are the first circuit, bits 2 to 4 the second, over the base. -/
def toByte (programme : CircuitProgramme) : UInt8 :=
  base ||| (UInt8.ofNat programme.circuit2.val <<< 2) ||| programme.circuit1.bits

def all : List CircuitProgramme :=
  SecondCircuit.all.flatMap fun circuit2 =>
    FirstCircuit.all.map fun circuit1 => { circuit1, circuit2 }

def ofByte? (byte : UInt8) : Option CircuitProgramme :=
  if base ≤ byte ∧ byte ≤ 0x5F then
    let circuit2 : SecondCircuit := Fin.ofNat 8 ((byte >>> 2) &&& 7).toNat
    (FirstCircuit.all.find? (·.bits == byte &&& 3)).map fun circuit1 => { circuit1, circuit2 }
  else none

end CircuitProgramme

/-! ## Tariff option -/

inductive TariffOption
  | base
  | hc
  | ejp
  | tempo (programme : CircuitProgramme)
  deriving DecidableEq, Repr

namespace TariffOption

/-- Opens the code of the coloured option; the programme byte follows. -/
def tempoCode : String := "BBR"

def code : TariffOption → String
  | .base => "BASE"
  | .hc => "HC.."
  | .ejp => "EJP."
  | .tempo programme => tempoCode ++ Text.ofAscii [programme.toByte]

def ofCode? (s : String) : Option TariffOption :=
  if s == TariffOption.base.code then some .base
  else if s == TariffOption.hc.code then some .hc
  else if s == TariffOption.ejp.code then some .ejp
  else
    match Text.bytes s with
    | [b1, b2, b3, byte] =>
        if [b1, b2, b3] = Text.bytes tempoCode then
          (CircuitProgramme.ofByte? byte).map .tempo
        else none
    | _ => none

def display : TariffOption → String
  | .base => "BASE"
  | .hc => "HC"
  | .ejp => "EJP"
  | .tempo programme =>
      "TEMPO-" ++ programme.circuit1.word ++ "-" ++ SecondCircuit.word programme.circuit2

end TariffOption
end TicMeter
