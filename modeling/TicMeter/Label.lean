/-!
# Label — the vocabulary of group lines

The closed set of labels that meters send, in the order of the vocabulary (`Label.all`), with the
text that stands on the wire.
-/

namespace TicMeter

inductive Label
  | adco | optarif | isousc | base | hchc | hchp | ejphn | ejphpm
  | bbrhcjb | bbrhpjb | bbrhcjw | bbrhpjw | bbrhcjr | bbrhpjr
  | pejp | ptec | demain | iinst | iinst1 | iinst2 | iinst3 | adps
  | imax | imax1 | imax2 | imax3 | adir1 | adir2 | adir3 | pmax | papp
  | hhphc | motdetat | ppot | date
  deriving DecidableEq, Repr

namespace Label

/-- Every label, in the order of the vocabulary. -/
def all : List Label :=
  [.adco, .optarif, .isousc, .base, .hchc, .hchp, .ejphn, .ejphpm,
    .bbrhcjb, .bbrhpjb, .bbrhcjw, .bbrhpjw, .bbrhcjr, .bbrhpjr,
    .pejp, .ptec, .demain, .iinst, .iinst1, .iinst2, .iinst3, .adps,
    .imax, .imax1, .imax2, .imax3, .adir1, .adir2, .adir3, .pmax, .papp,
    .hhphc, .motdetat, .ppot, .date]

def text : Label → String
  | .adco => "ADCO"
  | .optarif => "OPTARIF"
  | .isousc => "ISOUSC"
  | .base => "BASE"
  | .hchc => "HCHC"
  | .hchp => "HCHP"
  | .ejphn => "EJPHN"
  | .ejphpm => "EJPHPM"
  | .bbrhcjb => "BBRHCJB"
  | .bbrhpjb => "BBRHPJB"
  | .bbrhcjw => "BBRHCJW"
  | .bbrhpjw => "BBRHPJW"
  | .bbrhcjr => "BBRHCJR"
  | .bbrhpjr => "BBRHPJR"
  | .pejp => "PEJP"
  | .ptec => "PTEC"
  | .demain => "DEMAIN"
  | .iinst => "IINST"
  | .iinst1 => "IINST1"
  | .iinst2 => "IINST2"
  | .iinst3 => "IINST3"
  | .adps => "ADPS"
  | .imax => "IMAX"
  | .imax1 => "IMAX1"
  | .imax2 => "IMAX2"
  | .imax3 => "IMAX3"
  | .adir1 => "ADIR1"
  | .adir2 => "ADIR2"
  | .adir3 => "ADIR3"
  | .pmax => "PMAX"
  | .papp => "PAPP"
  | .hhphc => "HHPHC"
  | .motdetat => "MOTDETAT"
  | .ppot => "PPOT"
  | .date => "DATE"

def ofText? (s : String) : Option Label :=
  all.find? (·.text == s)

def index (label : Label) : Fin 35 :=
  match label with
  | .adco => 0 | .optarif => 1 | .isousc => 2 | .base => 3 | .hchc => 4 | .hchp => 5
  | .ejphn => 6 | .ejphpm => 7 | .bbrhcjb => 8 | .bbrhpjb => 9 | .bbrhcjw => 10
  | .bbrhpjw => 11 | .bbrhcjr => 12 | .bbrhpjr => 13 | .pejp => 14 | .ptec => 15
  | .demain => 16 | .iinst => 17 | .iinst1 => 18 | .iinst2 => 19 | .iinst3 => 20
  | .adps => 21 | .imax => 22 | .imax1 => 23 | .imax2 => 24 | .imax3 => 25
  | .adir1 => 26 | .adir2 => 27 | .adir3 => 28 | .pmax => 29 | .papp => 30
  | .hhphc => 31 | .motdetat => 32 | .ppot => 33 | .date => 34

def ofIndex (i : Fin 35) : Label :=
  all.get i

@[simp] theorem ofIndex_index (label : Label) : ofIndex label.index = label := by
  cases label <;> rfl

@[simp] theorem index_ofIndex : ∀ i : Fin 35, (ofIndex i).index = i := by
  decide

theorem index_inj {a b : Label} : a.index = b.index ↔ a = b := by
  refine ⟨fun h => ?_, fun h => h ▸ rfl⟩
  rw [← ofIndex_index a, ← ofIndex_index b, h]

/-- The text with only its first letter in upper case, as log messages write labels. -/
def name (label : Label) : String :=
  match label.text.toList with
  | [] => ""
  | c :: rest => String.ofList (c :: rest.map Char.toLower)

/-- A list of labels as log messages write it. -/
def listing (labels : List Label) : String :=
  "[" ++ ", ".intercalate (labels.map name) ++ "]"

end Label
end TicMeter
