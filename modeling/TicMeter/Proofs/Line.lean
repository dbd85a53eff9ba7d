import Mathlib.Algebra.Group.Basic
import Mathlib.Data.List.DropRight
import TicMeter.Receiver

/-!
# Line — splitting bytes into lines, and what lines come to

* `Wire.lines` splits the bytes inside a frame at the delimiters; `Wire.closedLines` and
  `Wire.openLine` are the part that a receiver has finished with and the part that it still holds.
* `Wire.delimited` puts lines between their delimiters, and splitting gives them back
  (`Wire.lines_delimited`).
* `Stats` are added counter by counter, and counting a line adds to them (`LineReading.count_add`).
* `Gathered.ofLines` is what a list of whole lines comes to. A line that is cut off one byte past
  the limit comes to the same (`Gathered.take_cut`).
-/

namespace TicMeter

/-! ## Splitting -/

namespace Wire

/-- The bytes that open, close or break off a frame. -/
def isBoundary (b : UInt8) : Bool :=
  b == stx || b == etx || b == eot

theorem boundary_cases {b : UInt8} (hb : isBoundary b) : b = stx ∨ b = etx ∨ b = eot := by
  simpa [isBoundary, or_assoc] using hb

theorem ne_boundary {b : UInt8} (hb : isBoundary b = false) : b ≠ stx ∧ b ≠ etx ∧ b ≠ eot := by
  simpa [isBoundary, and_assoc] using hb

/-- The bytes between which a line stands. -/
def isDelimiter (b : UInt8) : Bool :=
  b == lf || b == cr

/-- The lines of the bytes inside a frame: the longest non-empty runs without a delimiter. -/
def lines (bytes : List UInt8) : List (List UInt8) :=
  (bytes.splitOnP isDelimiter).filter (!·.isEmpty)

def openLine (bytes : List UInt8) : List UInt8 :=
  bytes.rtakeWhile (!isDelimiter ·)

def closedLines (bytes : List UInt8) : List (List UInt8) :=
  lines (bytes.rdropWhile (!isDelimiter ·))

@[simp] theorem lines_nil : lines [] = [] := rfl

/-- A delimiter separates the lines before it from those after it. -/
theorem lines_append_cons {d : UInt8} (hd : isDelimiter d) (as bs : List UInt8) :
    lines (as ++ d :: bs) = lines as ++ lines bs := by
  simp [lines, List.splitOnP_append_cons as bs hd]

/-- Bytes without a delimiter are one line, or none. -/
theorem lines_of_forall {bytes : List UInt8} (h : ∀ b ∈ bytes, isDelimiter b = false) :
    lines bytes = if bytes.isEmpty then [] else [bytes] := by
  cases bytes <;> simp [lines, List.splitOnP_eq_singleton h]

theorem isDelimiter_of_mem_openLine {bytes : List UInt8} :
    ∀ b ∈ openLine bytes, isDelimiter b = false := by
  intro b hb
  simpa using List.mem_rtakeWhile_imp hb

theorem openLine_concat_delimiter {d : UInt8} (hd : isDelimiter d) (bytes : List UInt8) :
    openLine (bytes ++ [d]) = [] := by
  simp [openLine, hd]

theorem openLine_concat {b : UInt8} (hb : isDelimiter b = false) (bytes : List UInt8) :
    openLine (bytes ++ [b]) = openLine bytes ++ [b] := by
  simp [openLine, hb]

theorem closedLines_concat_delimiter {d : UInt8} (hd : isDelimiter d) (bytes : List UInt8) :
    closedLines (bytes ++ [d]) = lines bytes := by
  have hkeep : (bytes ++ [d]).rdropWhile (!isDelimiter ·) = bytes ++ [d] := by
    simp [hd]
  rw [closedLines, hkeep, lines_append_cons hd, lines_nil, List.append_nil]

theorem closedLines_concat {b : UInt8} (hb : isDelimiter b = false) (bytes : List UInt8) :
    closedLines (bytes ++ [b]) = closedLines bytes := by
  simp [closedLines, hb]

/-- The lines are those before the last delimiter and, if it is not empty, the one after it. -/
theorem lines_eq_closedLines_append (bytes : List UInt8) :
    lines bytes =
      closedLines bytes ++ if (openLine bytes).isEmpty then [] else [openLine bytes] := by
  rw [← lines_of_forall isDelimiter_of_mem_openLine]
  have hsplit : bytes.rdropWhile (!isDelimiter ·) ++ openLine bytes = bytes :=
    List.rdropWhile_append_rtakeWhile
  -- either no delimiter has come, or the last one closes what stands before it
  rcases List.eq_nil_or_concat' (bytes.rdropWhile (!isDelimiter ·)) with hnil | ⟨front, d, hfront⟩
  · have hopen : openLine bytes = bytes := by simpa [hnil] using hsplit
    rw [hopen, closedLines, hnil, lines_nil, List.nil_append]
  · have hd : isDelimiter d := by
      have hlast := List.rdropWhile_last_not (!isDelimiter ·) bytes (by simp [hfront])
      simpa [hfront] using hlast
    have hbytes : bytes = front ++ d :: openLine bytes := by
      conv_lhs => rw [← hsplit, hfront]
      simp
    calc lines bytes
        = lines (front ++ d :: openLine bytes) := by rw [← hbytes]
      _ = lines (front ++ [d]) ++ lines (openLine bytes) := by
          rw [lines_append_cons hd, lines_append_cons hd, lines_nil, List.append_nil]
      _ = closedLines bytes ++ lines (openLine bytes) := by rw [closedLines, hfront]

/-! ### Lines between delimiters -/

def delimited (lines : List (List UInt8)) : List UInt8 :=
  lines.flatMap fun line => lf :: line ++ [cr]

def frame (lines : List (List UInt8)) : List UInt8 :=
  stx :: delimited lines ++ [etx]

/-- No byte ends the line or the frame around it. -/
def IsPlain (line : List UInt8) : Prop :=
  ∀ b ∈ line, isDelimiter b = false ∧ isBoundary b = false

instance (line : List UInt8) : Decidable (IsPlain line) :=
  inferInstanceAs (Decidable (∀ b ∈ line, _))

variable {segments : List (List UInt8)}

theorem isBoundary_of_mem_delimited (h : ∀ line ∈ segments, IsPlain line) :
    ∀ b ∈ delimited segments, isBoundary b = false := by
  intro b hb
  rcases List.mem_flatMap.1 hb with ⟨line, hline, hmem⟩
  simp only [List.cons_append, List.mem_cons, List.mem_append, List.not_mem_nil, or_false] at hmem
  rcases hmem with rfl | hmem | rfl
  · rfl
  · exact (h line hline b hmem).2
  · rfl

/-- Empty lines are none. -/
theorem lines_delimited (h : ∀ line ∈ segments, IsPlain line) :
    lines (delimited segments) = segments.filter (!·.isEmpty) := by
  induction segments with
  | nil => rfl
  | cons line rest ih =>
    have hlf : isDelimiter lf := by decide
    have hcr : isDelimiter cr := by decide
    have hplain : ∀ b ∈ line, isDelimiter b = false := fun b hb => (h line (by simp) b hb).1
    have hrest := ih fun other hother => h other (by simp [hother])
    calc lines (delimited (line :: rest))
        = lines ([] ++ lf :: (line ++ cr :: delimited rest)) := by simp [delimited]
      _ = lines line ++ lines (delimited rest) := by
          rw [lines_append_cons hlf, lines_append_cons hcr, lines_nil, List.nil_append]
      _ = (line :: rest).filter (!·.isEmpty) := by
          rw [hrest, lines_of_forall hplain, List.filter_cons]
          cases line <;> simp

/-- A line alone is closed behind its last byte. -/
theorem lines_delimited_singleton {line : List UInt8} (hne : line ≠ []) (hplain : IsPlain line) :
    lines (delimited [line]) = [line] ∧ closedLines (delimited [line]) = [line] := by
  have hcr : isDelimiter cr := by decide
  have hlines : lines (delimited [line]) = [line] := by
    rw [lines_delimited (by simpa using hplain)]
    simp [hne]
  have hfront : delimited [line] = (lf :: line) ++ [cr] := by simp [delimited]
  have hclosed : closedLines (delimited [line]) = lines (lf :: line) := by
    rw [hfront, closedLines_concat_delimiter hcr]
  refine ⟨hlines, ?_⟩
  calc closedLines (delimited [line])
      = lines (lf :: line) := hclosed
    _ = lines ((lf :: line) ++ cr :: []) := by
        rw [lines_append_cons hcr, lines_nil, List.append_nil]
    _ = [line] := by rw [← hfront, hlines]

end Wire

/-! ## Adding statistics -/

namespace Stats

def add (a b : Stats) : Stats where
  bytesRead := a.bytesRead + b.bytesRead
  noiseBytes := a.noiseBytes + b.noiseBytes
  linesTotal := a.linesTotal + b.linesTotal
  linesUnreadable := a.linesUnreadable + b.linesUnreadable
  checksumMismatches := a.checksumMismatches + b.checksumMismatches
  adpsRepairs := a.adpsRepairs + b.adpsRepairs
  unknownLabels := a.unknownLabels + b.unknownLabels
  conversionFailures := a.conversionFailures + b.conversionFailures
  duplicateLabels := a.duplicateLabels + b.duplicateLabels
  framesDecoded := a.framesDecoded + b.framesDecoded
  framesRejected := a.framesRejected + b.framesRejected
  framesInterrupted := a.framesInterrupted + b.framesInterrupted
  framesTruncated := a.framesTruncated + b.framesTruncated

instance : Add Stats := ⟨add⟩

instance : Zero Stats := ⟨{}⟩

theorem zero_def : (0 : Stats) = {} := rfl

theorem add_def (a b : Stats) : a + b = a.add b := rfl

instance : AddCommMonoid Stats where
  add_assoc a b c := by simp [add_def, add, Nat.add_assoc]
  zero_add a := by simp [add_def, add, zero_def]
  add_zero a := by simp [add_def, add, zero_def]
  add_comm a b := by simp [add_def, add, Nat.add_comm]
  nsmul := nsmulRec

end Stats

namespace LineReading

/-- Counting a line adds to the counters what it would make of fresh ones. -/
theorem count_add (reading : LineReading) (fields : FieldMap) (a b : Stats) :
    reading.count fields (a + b) = a + reading.count fields b := by
  unfold count
  -- in every case a fixed amount is added to some of the counters
  split
  all_goals
    split
    all_goals
      first
        | rfl
        | (split <;> rfl)

end LineReading

theorem GroupLine.parse_of_long {line : List UInt8} (h : Wire.maxLineLength < line.length) :
    GroupLine.parse line = .error (.tooLong line.length Wire.maxLineLength) := by
  have hne : line.isEmpty = false := by
    rw [List.isEmpty_eq_false_iff]
    exact List.ne_nil_of_length_pos (Nat.zero_lt_of_lt h)
  simp [GroupLine.parse, hne, h]

/-! ## What lines come to -/

/-- The fields that lines give, and the statistics about the lines. -/
structure Gathered where
  fields : FieldMap
  stats : Stats

namespace Gathered

def take (repair : AdpsRepair) (sum : Gathered) (line : List UInt8) : Gathered :=
  let reading := LineReading.ofBytes repair line
  ⟨reading.update sum.fields, reading.count sum.fields sum.stats⟩

theorem stats_take (repair : AdpsRepair) (sum : Gathered) (line : List UInt8) :
    (sum.take repair line).stats =
      sum.stats + (LineReading.ofBytes repair line).count sum.fields 0 := by
  rw [← LineReading.count_add, add_zero]
  rfl

def ofLines (repair : AdpsRepair) (lines : List (List UInt8)) : Gathered :=
  lines.foldl (take repair) ⟨.empty, 0⟩

theorem ofLines_concat (repair : AdpsRepair) (lines : List (List UInt8)) (line : List UInt8) :
    ofLines repair (lines ++ [line]) = (ofLines repair lines).take repair line := by
  simp [ofLines]

/-- The bytes past the limit do not matter, but for one that shows that there are such. -/
theorem take_cut (repair : AdpsRepair) (sum : Gathered) (line : List UInt8) :
    sum.take repair (line.take (Wire.maxLineLength + 1)) = sum.take repair line := by
  rcases Nat.lt_or_ge Wire.maxLineLength line.length with hlong | hshort
  · have hcut : Wire.maxLineLength < (line.take (Wire.maxLineLength + 1)).length := by
      rw [List.length_take]
      omega
    -- both are refused; only the reasons name different lengths
    simp [take, LineReading.ofBytes, LineReading.update, LineReading.count,
      GroupLine.parse_of_long hlong, GroupLine.parse_of_long hcut]
  · rw [List.take_of_length_le (by omega)]

end Gathered
end TicMeter
