import ScriptSplit.Config
import ScriptSplit.Record.Basic
import ScriptSplit.Report

namespace ScriptSplit

def Kind.all : List Kind := [.importDecl, .variableDecl, .functionDecl, .classDecl]

def Kind.ofWord? (word : Text) : Option Kind := Kind.all.find? fun kind => kind.word == word

instance : Recorded Kind where
  encode kind := .text kind.word
  decode
    | .text word => Kind.ofWord? word
    | .record [(word, .null)] => Kind.ofWord? word
    | _ => none

instance : Recorded Element where
  encode element :=
    .record [("kind", encode element.kind), ("name", encode element.name), ("lines", encode element.lines),
      ("start_line", encode element.startLine)]
  decode value :=
    match value.fields [["kind"], ["name"], ["lines"], ["start_line"]] with
    | some [kind, name, lines, startLine] => do
      return ⟨← Value.required kind, ← Value.required name, ← Value.required lines,
        ← Value.required startLine⟩
    | _ => none

instance : Recorded Stats where
  encode stats :=
    .record [("total_elements", encode stats.total), ("imports", encode stats.importCount),
      ("variables", encode stats.variableCount), ("functions", encode stats.functionCount),
      ("classes", encode stats.classCount), ("covered_lines", encode stats.coveredLines)]
  decode value :=
    match value.fields [["total_elements"], ["imports"], ["variables"], ["functions"], ["classes"],
        ["covered_lines"]] with
    | some [total, importCount, variableCount, functionCount, classCount, coveredLines] => do
      return ⟨← Value.required total, ← Value.required importCount, ← Value.required variableCount,
        ← Value.required functionCount, ← Value.required classCount, ← Value.required coveredLines⟩
    | _ => none

instance : Recorded Metadata where
  encode metadata :=
    .record [("scan_duration_ms", encode metadata.durationMs), ("timestamp", encode metadata.timestamp),
      ("tool_version", encode metadata.version)]
  decode value :=
    match value.fields [["scan_duration_ms"], ["timestamp"], ["tool_version"]] with
    | some [durationMs, timestamp, version] => do
      return ⟨← Value.required durationMs, ← Value.required timestamp, ← Value.required version⟩
    | _ => none

instance : Recorded Outline where
  encode outline :=
    .record [("path", encode outline.path), ("line_count", encode outline.lineCount),
      ("elements", encode outline.elements), ("stats", encode outline.stats),
      ("metadata", encode outline.metadata)]
  decode value :=
    match value.fields [["path"], ["line_count"], ["elements"], ["stats"], ["metadata"]] with
    | some [path, lineCount, elements, stats, metadata] => do
      return ⟨← Value.required path, ← Value.required lineCount, ← Value.required elements,
        ← Value.required stats, ← Value.required metadata⟩
    | _ => none

/-! ## Selections, groups and reports as records -/

instance : Recorded Group where
  encode group :=
    .record [("label", encode group.label), ("is_default", encode group.isDefault),
      ("elements", encode group.elements)]
  decode value :=
    match value.fields [["label"], ["is_default"], ["elements"]] with
    | some [label, isDefault, elements] => do
      return ⟨← Value.required label, ← Value.required isDefault, ← Value.required elements⟩
    | _ => none

instance : Recorded Selection where
  encode selection :=
    .record (encodeField "indices" selection.indices ++
      encodeUnless selection.ignored.isEmpty "ignored" selection.ignored)
  decode value :=
    match value.fields [["indices"], ["ignored"]] with
    | some [indices, ignored] => do
      return ⟨← Value.required indices, ← Value.orDefault [] ignored⟩
    | _ => none

def Reason.words : List Text := ["out_of_range", "already_claimed", "no_numbers"]

def Reason.tag? : Value → Option Nat
  | .text word => Reason.words.findIdx? (· == word)
  | .int (.ofNat n) => if n < Reason.words.length then some n else none
  | _ => none

def Reason.encodeFields : Reason → List (Text × Value)
  | .outOfRange max => [("reason", .text "out_of_range"), ("max", encode max)]
  | .alreadyClaimed owner => [("reason", .text "already_claimed"), ("by", encode owner)]
  | .noNumbers => [("reason", .text "no_numbers")]

instance : Recorded Issue where
  encode issue :=
    .record (encodeField "destination" issue.destination ++
      encodeUnless issue.index.isNone "index" issue.index ++ issue.reason.encodeFields)
  decode value :=
    match value.namedFields [["destination"], ["index"], ["reason"], ["max"], ["by"]] with
    | some [destination, index, reason, max, owner] => do
      let reason ← match ← reason.bind Reason.tag? with
        | 0 => (Value.required max).map Reason.outOfRange
        | 1 => (Value.required owner).map Reason.alreadyClaimed
        | _ => some .noNumbers
      return ⟨← Value.required destination, ← Value.orDefault none index, reason⟩
    | _ => none

instance : Recorded Warning where
  encode
    | .emptyDestination label => .record [("kind", .text "empty_destination"), ("label", encode label)]
    | .duplicateDestination label => .record [("kind", .text "duplicate_destination"), ("label", encode label)]
  decode value :=
    match value.fields [["kind"], ["label"]] with
    | some [some (.text kind), label] => do
      let label ← Value.required label
      if kind = "empty_destination".toList then return .emptyDestination label
      else if kind = "duplicate_destination".toList then return .duplicateDestination label
      else none
    | _ => none

instance : Recorded WrittenFile where
  encode file :=
    .record [("label", encode file.label), ("path", encode file.path), ("bytes", encode file.bytes),
      ("element_count", encode file.elementCount), ("written", encode file.written)]
  decode value :=
    match value.fields [["label"], ["path"], ["bytes"], ["element_count"], ["written"]] with
    | some [label, path, bytes, elementCount, written] => do
      return ⟨← Value.required label, ← Value.required path, ← Value.required bytes,
        ← Value.required elementCount, ← Value.required written⟩
    | _ => none

instance : Recorded WriteFailure where
  encode failure :=
    .record [("label", encode failure.label), ("path", encode failure.path), ("error", encode failure.error)]
  decode value :=
    match value.fields [["label"], ["path"], ["error"]] with
    | some [label, path, error] => do
      return ⟨← Value.required label, ← Value.required path, ← Value.required error⟩
    | _ => none

instance : Recorded Report where
  encode report :=
    .record (encodeField "source" report.source ++
      encodeField "default_destination" report.defaultDestination ++
      encodeField "stats" report.stats ++ encodeField "files" report.files ++
      encodeUnless report.warnings.isEmpty "warnings" report.warnings ++
      encodeUnless report.issues.isEmpty "assignment_issues" report.issues ++
      encodeUnless report.failures.isEmpty "write_failures" report.failures ++
      encodeField "metadata" report.metadata)
  decode value :=
    match value.fields [["source"], ["default_destination"], ["stats"], ["files"], ["warnings"],
        ["assignment_issues"], ["write_failures"], ["metadata"]] with
    | some [source, defaultDestination, stats, files, warnings, issues, failures, metadata] => do
      return ⟨← Value.required source, ← Value.required defaultDestination, ← Value.required stats,
        ← Value.required files, ← Value.orDefault [] warnings, ← Value.orDefault [] issues,
        ← Value.orDefault [] failures, ← Value.required metadata⟩
    | _ => none

/-! ## Plans as records -/

instance : Recorded PlanEntry where
  encode entry := .record [("label", encode entry.label), ("select", encode entry.select)]
  decode value :=
    match value.fields [["label"], ["select"]] with
    | some [label, select] => do
      return ⟨← Value.required label, ← Value.orDefault [] select⟩
    | _ => none

def Plan.dropSurplus : Value → Value
  | .record fields => .record (fields.map fun (key, value) =>
    match Plan.entriesKey.contains key, value with
    | true, .list entries => (key, .list (entries.map fun
      | .list items => .list (items.take 2)
      | entry => entry))
    | _, value => (key, value))
  | value => value

instance : Recorded Plan where
  encode plan :=
    .record (encodeField "source" plan.source ++
      encodeUnless plan.outputDir.isNone "output_dir" plan.outputDir ++
      encodeField "default" plan.default ++ encodeField "destination" plan.entries)
  decode value :=
    match value.fields [["source"], ["output_dir"], ["default"], Plan.entriesKey] with
    | some [source, outputDir, default, entries] => do
      return ⟨← Value.required source, ← Value.orDefault none outputDir, ← Value.required default,
        ← Value.orDefault [] entries⟩
    | _ => none

end ScriptSplit
