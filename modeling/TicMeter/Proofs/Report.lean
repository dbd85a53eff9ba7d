import TicMeter.Proofs.Document
import TicMeter.Proofs.Record
import TicMeter.Report.Json

/-!
# Report — a report reads back as it was written

A report is `Storable` if its numbers fit the words they are stored in and its fields are texts or
integers of 32 bits.

* `Report.plain_toJson`: the document of such a report has no numbers but words.
* `Report.ofJson?_toJson`: every part is read from its JSON value, what was left out included.
* `Report.reads_back`: so the report is read from its text, in either layout.
-/

namespace TicMeter

/-! ## What can be stored -/

/-- Whether a value is one of a field: a text or an integer of 32 bits without a sign. -/
inductive Json.IsFieldValue : Json → Prop
  | text (s : String) : IsFieldValue (.string s)
  | integer {n : Nat} (h : n < UInt32.size) : IsFieldValue (.integer n)

/-- So is every value that is decoded. -/
theorem Value.isFieldValue_toJson (v : Value) : v.toJson.IsFieldValue := by
  cases v with
  | integer n => exact .integer n.toNat_lt
  | _ => exact .text _

def Span.Storable (span : Span) : Prop :=
  span.start < UInt64.size ∧ span.stop < UInt64.size

structure FrameSummary.Storable (frame : FrameSummary) : Prop where
  sequence : frame.sequence < UInt64.size
  span : frame.span.Storable
  fields : ∀ entry ∈ frame.fields.entries, entry.2.IsFieldValue

structure RejectionSummary.Storable (rejection : RejectionSummary) : Prop where
  sequence : rejection.sequence < UInt64.size
  span : rejection.span.Storable

structure Report.Storable (report : Report) : Prop where
  version : report.reportVersion < UInt32.size
  bytes : report.input.bytes < UInt64.size
  counters : ∀ counter ∈ report.summary.named, counter.2 < UInt64.size
  frames : ∀ frame ∈ report.frames, frame.Storable
  errors : ∀ rejection ∈ report.errors, rejection.Storable

/-! ## What stands in fields -/

namespace Json

theorem IsFieldValue.plain {j : Json} (h : j.IsFieldValue) : j.Plain := by
  cases h with
  | text s => exact .string s
  | integer h => exact .integer (Nat.lt_trans h (by decide))

theorem IsFieldValue.normal {j : Json} (h : j.IsFieldValue) (depth : Nat) :
    j.normal? depth = some j := by
  cases h <;> rfl

/-- A field with a list of texts, which is left out if the list is empty. -/
def listField (items : List String) : Option Json :=
  if items.isEmpty then none else some (.array (items.map .string))

theorem asTexts?_listField (items : List String) : asTexts? (listField items) = some items := by
  cases items with
  | nil => rfl
  | cons s rest => exact asList?_map fun _ _ => rfl

theorem Plain.ofFields {fields : List (String × Option Json)}
    (h : ∀ field ∈ fields, ∀ j ∈ field.2, j.Plain) : (ofFields fields).Plain := by
  refine .object fun m hm => ?_
  rcases List.mem_filterMap.1 hm with ⟨field, hfield, hm⟩
  rcases Option.map_eq_some_iff.1 hm with ⟨j, hj, rfl⟩
  exact h field hfield j hj

theorem plain_of_mem_listField {items : List String} : ∀ j ∈ listField items, j.Plain := by
  intro j hj
  cases items with
  | nil => cases hj
  | cons s rest =>
    cases hj
    exact .array (by simp [Plain.string])

end Json

/-! ## Records

The lemmas `ofJson?_of_fields` read a record from any values in its fields. With the values that are
written there, a comparison with the size of a word would be computed, which takes too long.
-/

theorem MeterFamily.ofJson?_word (family : MeterFamily) :
    ofJson? (.string family.word) = some family := by
  cases family <;> rfl

theorem BillingOption.ofJson?_word (option : BillingOption) :
    ofJson? (.string option.word) = some option := by
  cases option <;> rfl

namespace Span

theorem plain_toJson {span : Span} (h : span.Storable) : span.toJson.Plain :=
  .object (by simp [Json.Plain.integer h.1, Json.Plain.integer h.2])

theorem ofJson?_of_fields {j start stop : Json} {span : Span}
    (h : j.asRecord? ["start", "end"] = some [some start, some stop])
    (hstart : start.asWord? = some span.start) (hstop : stop.asWord? = some span.stop) :
    ofJson? j = some span := by
  simp [ofJson?, h, hstart, hstop]

theorem toJson_eq (span : Span) : span.toJson =
    .ofFields [("start", some (.integer span.start)), ("end", some (.integer span.stop))] := rfl

theorem ofJson?_toJson {span : Span} (h : span.Storable) : ofJson? span.toJson = some span := by
  rw [toJson_eq]
  exact ofJson?_of_fields (Json.asRecord?_ofFields (by simp)) (Json.asWord?_integer h.1)
    (Json.asWord?_integer h.2)

end Span

theorem Options.plain_toJson (options : Options) : options.toJson.Plain :=
  .object (by simp [Json.Plain.bool])

theorem Options.ofJson?_toJson (options : Options) : ofJson? options.toJson = some options := by
  simp [ofJson?, toJson, Json.asRecord?, Json.asBool?]

namespace Stats

theorem plain_toJson {stats : Stats} (h : ∀ counter ∈ stats.named, counter.2 < UInt64.size) :
    stats.toJson.Plain :=
  .object (List.forall_mem_map.2 fun counter hcounter => .integer (h counter hcounter))

theorem ofJson?_of_fields {j : Json} {slots : List (Option Json)} {stats : Stats}
    (h : j.asRecord? ((named {}).map (·.1)) = some slots)
    (hslots : slots.mapM (·.bind Json.asWord?) = some (stats.named.map Prod.snd)) :
    ofJson? j = some stats := by
  simp [ofJson?, h, hslots]
  rfl

/-- The counters have the same names in every report. -/
theorem map_fst_named (stats : Stats) : stats.named.map Prod.fst = (named {}).map Prod.fst := rfl

theorem asRecord?_toJson (stats : Stats) :
    Json.asRecord? ((named {}).map Prod.fst) stats.toJson =
      some (stats.named.map fun counter => some (.integer counter.2)) := by
  let field (counter : String × Nat) : String × Option Json :=
    (counter.1, some (.integer counter.2))
  have hkeys : (stats.named.map field).map Prod.fst = (named {}).map Prod.fst := by
    rw [List.map_map]
    exact map_fst_named stats
  have hnodup : ((stats.named.map field).map Prod.fst).Nodup := by
    rw [hkeys]
    decide
  have hfields := Json.asRecord?_ofFields hnodup
  rw [hkeys, List.map_map] at hfields
  exact hfields

theorem ofJson?_toJson {stats : Stats} (h : ∀ counter ∈ stats.named, counter.2 < UInt64.size) :
    ofJson? stats.toJson = some stats := by
  have hwords : ∀ counter ∈ stats.named,
      (some (Json.integer counter.2)).bind Json.asWord? = some counter.2 := by
    intro counter hcounter
    rw [Option.bind_some, Json.asWord?_integer (h counter hcounter)]
  exact ofJson?_of_fields (asRecord?_toJson stats) (Json.mapM_map hwords)

end Stats

theorem ToolInfo.plain_toJson (tool : ToolInfo) : tool.toJson.Plain :=
  .object (by simp [Json.Plain.string])

theorem ToolInfo.ofJson?_toJson (tool : ToolInfo) : ofJson? tool.toJson = some tool := by
  simp [ofJson?, toJson, Json.asRecord?, Json.asString?]

namespace InputInfo

theorem plain_toJson {input : InputInfo} (h : input.bytes < UInt64.size) : input.toJson.Plain :=
  .object (by simp [Json.Plain.string, Json.Plain.integer h])

theorem ofJson?_of_fields {j path bytes : Json} {input : InputInfo}
    (h : j.asRecord? ["path", "bytes"] = some [some path, some bytes])
    (hpath : path.asString? = some input.path) (hbytes : bytes.asWord? = some input.bytes) :
    ofJson? j = some input := by
  simp [ofJson?, h, hpath, hbytes]

theorem toJson_eq (input : InputInfo) : input.toJson =
    .ofFields [("path", some (.string input.path)), ("bytes", some (.integer input.bytes))] := rfl

theorem ofJson?_toJson {input : InputInfo} (h : input.bytes < UInt64.size) :
    ofJson? input.toJson = some input := by
  rw [toJson_eq]
  exact ofJson?_of_fields (Json.asRecord?_ofFields (by simp)) rfl (Json.asWord?_integer h)

end InputInfo

namespace FrameSummary

variable {frame : FrameSummary}

theorem option?_word (option : Option BillingOption) :
    option? (option.map (.string ·.word)) = some option := by
  cases option with
  | none => rfl
  | some option => exact congrArg (Option.map some) (BillingOption.ofJson?_word option)

theorem ofJson?_of_fields {depth : Nat} {j sequence span family fields : Json}
    {option discarded : Option Json}
    (h : j.asRecord? ["sequence", "span", "family", "option", "fields", "discarded_labels"] =
      some [some sequence, some span, some family, option, some fields, discarded])
    (hsequence : sequence.asWord? = some frame.sequence)
    (hspan : Span.ofJson? span = some frame.span)
    (hfamily : MeterFamily.ofJson? family = some frame.family)
    (hoption : option? option = some frame.option)
    (hmap : fields.asKeyMap? (depth - 1) = some frame.fields)
    (hdiscarded : Json.asTexts? discarded = some frame.discardedLabels) :
    ofJson? depth j = some frame := by
  simp [ofJson?, h, hsequence, hspan, hfamily, hoption, hmap, hdiscarded]

theorem toJson_eq (frame : FrameSummary) :
    frame.toJson = .ofFields [("sequence", some (.integer frame.sequence)),
      ("span", some frame.span.toJson), ("family", some (.string frame.family.word)),
      ("option", frame.option.map (.string ·.word)),
      ("fields", some (.object frame.fields.entries)),
      ("discarded_labels", Json.listField frame.discardedLabels)] := by
  rcases frame with ⟨sequence, span, family, _ | option, fields, _ | ⟨label, labels⟩⟩ <;> rfl

theorem ofJson?_toJson (h : frame.Storable) (depth : Nat) :
    ofJson? depth frame.toJson = some frame := by
  rw [toJson_eq]
  exact ofJson?_of_fields (Json.asRecord?_ofFields (by simp)) (Json.asWord?_integer h.sequence)
    (Span.ofJson?_toJson h.span) (MeterFamily.ofJson?_word _) (option?_word _)
    (Json.asKeyMap?_entries fun entry hentry => (h.fields entry hentry).normal _)
    (Json.asTexts?_listField _)

theorem plain_toJson (h : frame.Storable) : frame.toJson.Plain := by
  have hfields : (Json.object frame.fields.entries).Plain :=
    .object fun entry hentry => (h.fields entry hentry).plain
  rw [toJson_eq]
  refine .ofFields ?_
  simpa [Json.Plain.integer h.sequence, Span.plain_toJson h.span, Json.Plain.string, hfields]
    using Json.plain_of_mem_listField

end FrameSummary

namespace RejectionSummary

variable {rejection : RejectionSummary}

theorem ofJson?_of_fields {j sequence span kind message : Json} {labels : Option Json}
    (h : j.asRecord? ["sequence", "span", "kind", "message", "labels"] =
      some [some sequence, some span, some kind, some message, labels])
    (hsequence : sequence.asWord? = some rejection.sequence)
    (hspan : Span.ofJson? span = some rejection.span)
    (hkind : kind.asString? = some rejection.kind)
    (hmessage : message.asString? = some rejection.message)
    (hlabels : Json.asTexts? labels = some rejection.labels) :
    ofJson? j = some rejection := by
  simp [ofJson?, h, hsequence, hspan, hkind, hmessage, hlabels]

theorem toJson_eq (rejection : RejectionSummary) :
    rejection.toJson = .ofFields [("sequence", some (.integer rejection.sequence)),
      ("span", some rejection.span.toJson), ("kind", some (.string rejection.kind)),
      ("message", some (.string rejection.message)),
      ("labels", Json.listField rejection.labels)] := by
  rcases rejection with ⟨sequence, span, kind, message, _ | ⟨label, labels⟩⟩ <;> rfl

theorem ofJson?_toJson (h : rejection.Storable) : ofJson? rejection.toJson = some rejection := by
  rw [toJson_eq]
  exact ofJson?_of_fields (Json.asRecord?_ofFields (by simp)) (Json.asWord?_integer h.sequence)
    (Span.ofJson?_toJson h.span) rfl rfl (Json.asTexts?_listField _)

theorem plain_toJson (h : rejection.Storable) : rejection.toJson.Plain := by
  rw [toJson_eq]
  refine .ofFields ?_
  simpa [Json.Plain.integer h.sequence, Span.plain_toJson h.span, Json.Plain.string]
    using Json.plain_of_mem_listField

end RejectionSummary

namespace Report

variable {report : Report}

theorem ofJson?_of_fields {j version tool generatedAt input options summary frames errors : Json}
    (h : j.asRecord? ["report_version", "tool", "generated_at", "input", "options", "summary",
      "frames", "errors"] = some [some version, some tool, some generatedAt, some input,
        some options, some summary, some frames, some errors])
    (hversion : version.asNat? UInt32.size = some report.reportVersion)
    (htool : ToolInfo.ofJson? tool = some report.tool)
    (hgeneratedAt : generatedAt.asString? = some report.generatedAt)
    (hinput : InputInfo.ofJson? input = some report.input)
    (hoptions : Options.ofJson? options = some report.options)
    (hsummary : Stats.ofJson? summary = some report.summary)
    (hframes : frames.asList? (FrameSummary.ofJson? (Json.maxDepth - 3)) = some report.frames)
    (herrors : errors.asList? RejectionSummary.ofJson? = some report.errors) :
    ofJson? j = some report := by
  simp [ofJson?, h, hversion, htool, hgeneratedAt, hinput, hoptions, hsummary, hframes, herrors]

theorem toJson_eq (report : Report) :
    report.toJson = .ofFields [("report_version", some (.integer report.reportVersion)),
      ("tool", some report.tool.toJson), ("generated_at", some (.string report.generatedAt)),
      ("input", some report.input.toJson), ("options", some report.options.toJson),
      ("summary", some report.summary.toJson),
      ("frames", some (.array (report.frames.map FrameSummary.toJson))),
      ("errors", some (.array (report.errors.map RejectionSummary.toJson)))] := rfl

theorem ofJson?_toJson (h : report.Storable) : ofJson? report.toJson = some report := by
  rw [toJson_eq]
  exact ofJson?_of_fields (Json.asRecord?_ofFields (by simp)) (Json.asNat?_integer h.version)
    (ToolInfo.ofJson?_toJson _) rfl (InputInfo.ofJson?_toJson h.bytes) (Options.ofJson?_toJson _)
    (Stats.ofJson?_toJson h.counters)
    (Json.asList?_map fun frame hframe => FrameSummary.ofJson?_toJson (h.frames frame hframe) _)
    (Json.asList?_map fun rejection hrejection =>
      RejectionSummary.ofJson?_toJson (h.errors rejection hrejection))

theorem plain_toJson (h : report.Storable) : report.toJson.Plain := by
  have hversion : (Json.integer report.reportVersion).Plain :=
    .integer (Nat.lt_trans h.version (by decide))
  have hframes : (Json.array (report.frames.map FrameSummary.toJson)).Plain :=
    .array (List.forall_mem_map.2 fun frame hframe =>
      FrameSummary.plain_toJson (h.frames frame hframe))
  have herrors : (Json.array (report.errors.map RejectionSummary.toJson)).Plain :=
    .array (List.forall_mem_map.2 fun rejection hrejection =>
      RejectionSummary.plain_toJson (h.errors rejection hrejection))
  rw [toJson_eq]
  refine .ofFields ?_
  simp [hversion, ToolInfo.plain_toJson, Json.Plain.string, InputInfo.plain_toJson h.bytes,
    Options.plain_toJson, Stats.plain_toJson h.counters, hframes, herrors]

/-- A report is read back from its text as it was. -/
theorem reads_back (h : report.Storable) (layout : Json.Layout) :
    parse? (report.render layout) = some report := by
  rw [parse?, render, Json.parse?_render (plain_toJson h), Option.bind_some, ofJson?_toJson h]

/-- A report with characters that must be escaped, the greatest numbers, and every member that may
be left out both there and left out. -/
def mixed : Report where
  reportVersion := 1
  tool := ⟨"teleinfo", ""⟩
  generatedAt := "\x00\t\x1f\x7f"
  input := ⟨"C:\\relevés\\\"été\".raw\n😀", 18446744073709551615⟩
  options := ⟨true⟩
  summary := { bytesRead := 18446744073709551615, framesDecoded := 2 }
  frames := [
    { sequence := 0, span := ⟨0, 18446744073709551615⟩, family := .cbemm, option := some .tempo,
      fields := ⟨[("BASE", .integer 4294967295), ("PTEC", .string "TH\\/")], by decide⟩,
      discardedLabels := ["PEJP", "\x08\x0c"] },
    { sequence := 1, span := ⟨7, 3⟩, family := .cbetmShort, option := none,
      fields := ⟨[], .nil⟩, discardedLabels := [] }]
  errors := [
    { sequence := 18446744073709551615, span := ⟨9, 9⟩, kind := "unclassifiable",
      message := "", labels := ["ADCO"] },
    { sequence := 2, span := ⟨9, 12⟩, kind := "\x7b", message := "null", labels := [] }]

theorem reads_back_mixed : mixed.Storable ∧
    parse? (mixed.render .compact) = some mixed ∧ parse? (mixed.render .pretty) = some mixed := by
  have hframes : ∀ frame ∈ mixed.frames, frame.Storable := by
    refine List.forall_mem_cons.2 ⟨⟨by decide, ⟨by decide, by decide⟩, ?_⟩,
      List.forall_mem_cons.2 ⟨⟨by decide, ⟨by decide, by decide⟩, nofun⟩, nofun⟩⟩
    exact List.forall_mem_cons.2 ⟨.integer (by decide), List.forall_mem_cons.2 ⟨.text _, nofun⟩⟩
  have herrors : ∀ rejection ∈ mixed.errors, rejection.Storable :=
    List.forall_mem_cons.2 ⟨⟨by decide, by decide, by decide⟩,
      List.forall_mem_cons.2 ⟨⟨by decide, by decide, by decide⟩, nofun⟩⟩
  have hstorable : mixed.Storable := ⟨by decide, by decide, by decide, hframes, herrors⟩
  exact ⟨hstorable, reads_back hstorable .compact, reads_back hstorable .pretty⟩

end Report
end TicMeter
