import TicMeter.Label

/-!
# FrameKind — which meter and which tariff sent a frame

A frame kind is a meter family with a billing option; the short three-phase frame has no option.
Each kind has labels that must be present and labels that may be present. `classify` picks, among
the kinds whose mandatory labels have all been seen, the one with the most of them.
-/

namespace TicMeter

inductive MeterFamily
  /-- single-phase electronic meter -/
  | cbemm
  /-- single-phase meter of the later generation, which reports apparent power -/
  | cbemmIcc
  /-- three-phase meter, regular frame -/
  | cbetmLong
  /-- three-phase meter, short frame sent when a phase draws too much -/
  | cbetmShort
  deriving DecidableEq, Repr

namespace MeterFamily

def all : List MeterFamily := [.cbemm, .cbemmIcc, .cbetmLong, .cbetmShort]

def word : MeterFamily → String
  | .cbemm => "cbemm"
  | .cbemmIcc => "cbemm_evolution_icc"
  | .cbetmLong => "cbetm_long"
  | .cbetmShort => "cbetm_short"

def display : MeterFamily → String
  | .cbemm => "CBEMM"
  | .cbemmIcc => "CBEMM Evolution ICC"
  | .cbetmLong => "CBETM (long frame)"
  | .cbetmShort => "CBETM (short frame)"

end MeterFamily

inductive BillingOption
  /-- flat rate -/
  | base
  /-- peak and off-peak hours -/
  | hc
  /-- days on which consumption is to be avoided -/
  | ejp
  /-- coloured days -/
  | tempo
  deriving DecidableEq, Repr

namespace BillingOption

def all : List BillingOption := [.base, .hc, .ejp, .tempo]

def word : BillingOption → String
  | .base => "base"
  | .hc => "hc"
  | .ejp => "ejp"
  | .tempo => "tempo"

def display : BillingOption → String
  | .base => "BASE"
  | .hc => "HC"
  | .ejp => "EJP"
  | .tempo => "TEMPO"

/-- The energy registers of the option. -/
def mandatory : BillingOption → List Label
  | .base => [.base]
  | .hc => [.hchc, .hchp]
  | .ejp => [.ejphn, .ejphpm]
  | .tempo => [.bbrhcjb, .bbrhpjb, .bbrhcjw, .bbrhpjw, .bbrhcjr, .bbrhpjr]

def optional : BillingOption → List Label
  | .base | .hc => []
  | .ejp => [.pejp]
  | .tempo => [.demain]

end BillingOption

inductive FrameKind
  | cbemm (option : BillingOption)
  | cbemmIcc (option : BillingOption)
  | cbetmLong (option : BillingOption)
  | cbetmShort
  deriving DecidableEq, Repr

namespace FrameKind

/-- Every kind, family by family. -/
def all : List FrameKind :=
  BillingOption.all.map cbemm ++ BillingOption.all.map cbemmIcc ++
    BillingOption.all.map cbetmLong ++ [cbetmShort]

def family : FrameKind → MeterFamily
  | .cbemm _ => .cbemm
  | .cbemmIcc _ => .cbemmIcc
  | .cbetmLong _ => .cbetmLong
  | .cbetmShort => .cbetmShort

def option? : FrameKind → Option BillingOption
  | .cbemm option | .cbemmIcc option | .cbetmLong option => some option
  | .cbetmShort => none

def display (kind : FrameKind) : String :=
  match kind.option? with
  | some option => kind.family.display ++ " / " ++ option.display
  | none => kind.family.display

/-! ## Labels of a kind -/

def singlePhase : List Label := [.adco, .isousc, .ptec, .iinst, .imax]

def threePhase : List Label :=
  [.adco, .isousc, .ptec, .iinst1, .iinst2, .iinst3, .imax1, .imax2, .imax3, .pmax, .papp, .ppot]

def mandatory : FrameKind → List Label
  | .cbemm option => singlePhase ++ option.mandatory
  | .cbemmIcc option => singlePhase ++ [.papp] ++ option.mandatory
  | .cbetmLong option => threePhase ++ option.mandatory
  | .cbetmShort => [.adco, .iinst1, .iinst2, .iinst3, .adir1, .adir2, .adir3]

/-- The labels that a frame of the kind may carry besides. Any frame may be dated. -/
def optional : FrameKind → List Label
  | .cbemm option | .cbemmIcc option =>
      [.optarif, .adps, .hhphc, .motdetat] ++ option.optional ++ [.date]
  | .cbetmLong option => [.optarif, .hhphc, .motdetat] ++ option.optional ++ [.date]
  | .cbetmShort => [.date]

def accepts (kind : FrameKind) (label : Label) : Bool :=
  kind.mandatory.contains label || kind.optional.contains label

/-! ## Classification -/

/-- The kinds by falling number of mandatory labels; equal numbers keep the order of `all`. -/
def bySpecificity : List FrameKind :=
  [.cbetmLong .tempo, .cbetmLong .hc, .cbetmLong .ejp, .cbetmLong .base,
    .cbemmIcc .tempo, .cbemm .tempo, .cbemmIcc .hc, .cbemmIcc .ejp,
    .cbemm .hc, .cbemm .ejp, .cbemmIcc .base, .cbetmShort, .cbemm .base]

/-- The most specific kind whose mandatory labels have all been seen. -/
def classify (seen : Label → Bool) : Option FrameKind :=
  bySpecificity.find? fun kind => kind.mandatory.all seen

end FrameKind

/-- The given labels once each, in the order of the vocabulary. -/
def Label.inOrder (labels : List Label) : List Label :=
  Label.all.filter labels.contains

end TicMeter
