import ScriptSplit.Plan
import ScriptSplit.Proofs.Record.Basic
import ScriptSplit.Record.Types

namespace ScriptSplit

instance : Sized Kind := ⟨fun _ => True⟩

instance : Sized Element := ⟨fun element => Fits element.startLine⟩

instance : Sized Stats := ⟨fun stats => Fits [stats.total, stats.importCount, stats.variableCount,
  stats.functionCount, stats.classCount, stats.coveredLines]⟩

instance : Sized Metadata := ⟨fun metadata => Fits metadata.durationMs⟩

instance : Sized Outline :=
  ⟨fun outline => Fits outline.lineCount ∧ Fits outline.elements ∧ Fits outline.stats ∧ Fits outline.metadata⟩

instance : Sized Group := ⟨fun group => Fits group.elements⟩

instance : Sized Selection := ⟨fun selection => Fits selection.indices⟩

instance : Sized Reason where
  Fits
    | .outOfRange max => Fits max
    | .alreadyClaimed _ | .noNumbers => True

instance : Sized Issue := ⟨fun issue => Fits issue.index ∧ Fits issue.reason⟩

instance : Sized Warning := ⟨fun _ => True⟩

instance : Sized WrittenFile := ⟨fun file => Fits file.bytes ∧ Fits file.elementCount⟩

instance : Sized WriteFailure := ⟨fun _ => True⟩

instance : Sized Report :=
  ⟨fun report => Fits report.stats ∧ Fits report.files ∧ Fits report.issues ∧ Fits report.metadata⟩

instance : Sized PlanEntry := ⟨fun _ => True⟩

instance : Sized Plan := ⟨fun _ => True⟩

@[simp] theorem fits_kind (kind : Kind) : Fits kind := trivial

@[simp] theorem fits_warning (warning : Warning) : Fits warning := trivial

@[simp] theorem fits_failure (failure : WriteFailure) : Fits failure := trivial

@[simp] theorem fits_entry (entry : PlanEntry) : Fits entry := trivial

instance : LawfulRecorded Kind where
  plain_encode kind := .text kind.word
  decode_encode {kind} _ := by cases kind <;> rfl

instance : LawfulRecorded Element where
  plain_encode _ := .record (show PlainFields _ by simp)
  decode_encode {element} (fits : Fits element.startLine) := by
    have found : Value.fields (encode element) [["kind"], ["name"], ["lines"], ["start_line"]] =
        some [some (encode element.kind), some (encode element.name), some (encode element.lines),
          some (encode element.startLine)] := rfl
    simp only [decode, found]
    simp [required_encode, fits]

instance : LawfulRecorded Stats where
  plain_encode _ := .record (show PlainFields _ by simp)
  decode_encode {stats} fits := by
    have found : Value.fields (encode stats) [["total_elements"], ["imports"], ["variables"], ["functions"],
        ["classes"], ["covered_lines"]] =
        some [some (encode stats.total), some (encode stats.importCount), some (encode stats.variableCount),
          some (encode stats.functionCount), some (encode stats.classCount), some (encode stats.coveredLines)] := rfl
    simp only [Fits, List.forall_mem_cons] at fits
    simp only [decode, found]
    simp [required_encode, Fits, fits]

instance : LawfulRecorded Metadata where
  plain_encode _ := .record (show PlainFields _ by simp)
  decode_encode {metadata} (fits : Fits metadata.durationMs) := by
    have found : Value.fields (encode metadata) [["scan_duration_ms"], ["timestamp"], ["tool_version"]] =
        some [some (encode metadata.durationMs), some (encode metadata.timestamp),
          some (encode metadata.version)] := rfl
    simp only [decode, found]
    simp [required_encode, fits]

instance : LawfulRecorded Outline where
  plain_encode _ := .record (show PlainFields _ by simp)
  decode_encode {outline} fits := by
    have found : Value.fields (encode outline) [["path"], ["line_count"], ["elements"], ["stats"], ["metadata"]] =
        some [some (encode outline.path), some (encode outline.lineCount), some (encode outline.elements),
          some (encode outline.stats), some (encode outline.metadata)] := rfl
    obtain ⟨lineCount, elements, stats, metadata⟩ := fits
    simp only [decode, found]
    simp [required_encode, lineCount, elements, stats, metadata]

instance : LawfulRecorded Group where
  plain_encode _ := .record (show PlainFields _ by simp)
  decode_encode {group} (fits : Fits group.elements) := by
    have found : Value.fields (encode group) [["label"], ["is_default"], ["elements"]] =
        some [some (encode group.label), some (encode group.isDefault), some (encode group.elements)] := rfl
    simp only [decode, found]
    simp [required_encode, fits]

instance : LawfulRecorded Selection where
  plain_encode _ := .record (show PlainFields _ by simp)
  decode_encode {selection} (fits : Fits selection.indices) := by
    have found : Value.fields (encode selection) [["indices"], ["ignored"]] =
        some [some (encode selection.indices), writtenUnless selection.ignored.isEmpty selection.ignored] := by
      change Value.fields (.record (_ ++ encodeUnless selection.ignored.isEmpty _ _)) _ = _
      cases selection.ignored.isEmpty <;> rfl
    simp only [decode, found]
    simp [required_encode, fits, orDefault_writtenUnless]

theorem plainFields_reason (reason : Reason) : PlainFields reason.encodeFields := by
  cases reason <;> simp [Reason.encodeFields, Value.Plain.text]

instance : LawfulRecorded Issue where
  plain_encode _ := .record (show PlainFields _ by simp [plainFields_reason])
  decode_encode {issue} fits := by
    obtain ⟨destination, index, reason⟩ := issue
    obtain ⟨fitsIndex, fitsReason⟩ := fits
    have found : Value.namedFields (encode (Issue.mk destination index reason))
        [["destination"], ["index"], ["reason"], ["max"], ["by"]] =
        some [some (encode destination), writtenUnless index.isNone index,
          reason.encodeFields.lookup "reason".toList, reason.encodeFields.lookup "max".toList,
          reason.encodeFields.lookup "by".toList] := by
      -- Which fields there are depends on the index being there and on the kind of reason, and on nothing else.
      change Value.namedFields (.record (_ ++ encodeUnless index.isNone _ _ ++ _)) _ = _
      cases index.isNone <;> cases reason <;> rfl
    simp only [decode, found]
    cases reason with
    | outOfRange max =>
        have tag : ((Reason.outOfRange max).encodeFields.lookup "reason".toList).bind Reason.tag? = some 0 := rfl
        have bound : (Reason.outOfRange max).encodeFields.lookup "max".toList = some (encode max) := rfl
        have fitsMax : Fits max := fitsReason
        rw [tag, bound]
        simp [required_encode, orDefault_writtenUnless, fitsIndex, fitsMax]
    | alreadyClaimed owner =>
        have tag : ((Reason.alreadyClaimed owner).encodeFields.lookup "reason".toList).bind Reason.tag? = some 1 :=
          rfl
        have claimant : (Reason.alreadyClaimed owner).encodeFields.lookup "by".toList = some (encode owner) := rfl
        rw [tag, claimant]
        simp [required_encode, orDefault_writtenUnless, fitsIndex]
    | noNumbers =>
        have tag : (Reason.noNumbers.encodeFields.lookup "reason".toList).bind Reason.tag? = some 2 := rfl
        rw [tag]
        simp [required_encode, orDefault_writtenUnless, fitsIndex]

instance : LawfulRecorded Warning where
  plain_encode warning := by cases warning <;> exact .record (show PlainFields _ by simp [Value.Plain.text])
  decode_encode {warning} _ := by cases warning <;> rfl

instance : LawfulRecorded WrittenFile where
  plain_encode _ := .record (show PlainFields _ by simp)
  decode_encode {file} fits := by
    have found : Value.fields (encode file) [["label"], ["path"], ["bytes"], ["element_count"], ["written"]] =
        some [some (encode file.label), some (encode file.path), some (encode file.bytes),
          some (encode file.elementCount), some (encode file.written)] := rfl
    obtain ⟨bytes, elementCount⟩ := fits
    simp only [decode, found]
    simp [required_encode, bytes, elementCount]

instance : LawfulRecorded WriteFailure where
  plain_encode _ := .record (show PlainFields _ by simp)
  decode_encode {failure} _ := by
    have found : Value.fields (encode failure) [["label"], ["path"], ["error"]] =
        some [some (encode failure.label), some (encode failure.path), some (encode failure.error)] := rfl
    simp only [decode, found]
    simp [required_encode]

instance : LawfulRecorded Report where
  plain_encode _ := .record (show PlainFields _ by simp)
  decode_encode {report} fits := by
    have found : Value.fields (encode report) [["source"], ["default_destination"], ["stats"], ["files"],
        ["warnings"], ["assignment_issues"], ["write_failures"], ["metadata"]] =
        some [some (encode report.source), some (encode report.defaultDestination), some (encode report.stats),
          some (encode report.files), writtenUnless report.warnings.isEmpty report.warnings,
          writtenUnless report.issues.isEmpty report.issues, writtenUnless report.failures.isEmpty report.failures,
          some (encode report.metadata)] := by
      change Value.fields (.record (_ ++ encodeUnless report.warnings.isEmpty _ _ ++
        encodeUnless report.issues.isEmpty _ _ ++ encodeUnless report.failures.isEmpty _ _ ++ _)) _ = _
      cases report.warnings.isEmpty <;> cases report.issues.isEmpty <;> cases report.failures.isEmpty <;> rfl
    obtain ⟨stats, files, issues, metadata⟩ := fits
    simp only [decode, found]
    simp [required_encode, orDefault_writtenUnless, stats, files, issues, metadata]

instance : LawfulRecorded PlanEntry where
  plain_encode _ := .record (show PlainFields _ by simp)
  decode_encode {entry} _ := by
    have found : Value.fields (encode entry) [["label"], ["select"]] =
        some [some (encode entry.label), some (encode entry.select)] := rfl
    simp only [decode, found]
    simp [required_encode, orDefault_encode]

instance : LawfulRecorded Plan where
  plain_encode _ := .record (show PlainFields _ by simp)
  decode_encode {plan} _ := by
    have found : Value.fields (encode plan) [["source"], ["output_dir"], ["default"], Plan.entriesKey] =
        some [some (encode plan.source), writtenUnless plan.outputDir.isNone plan.outputDir,
          some (encode plan.default), some (encode plan.entries)] := by
      change Value.fields (.record (_ ++ encodeUnless plan.outputDir.isNone _ _ ++ _ ++ _)) _ = _
      cases plan.outputDir.isNone <;> rfl
    simp only [decode, found]
    simp [required_encode, orDefault_writtenUnless, orDefault_encode]

def reread {α : Type} [Recorded α] (item : α) : Option α := (Json.read (Json.print (encode item))).bind decode

def ReadsBack (α : Type) [Recorded α] [Sized α] : Prop := ∀ item : α, Fits item → reread item = some item

theorem readsBack_of_lawful {α : Type} [Recorded α] [Sized α] [LawfulRecorded α] : ReadsBack α := by
  intro item fits
  rw [reread, Json.read_print (plain_encode item)]
  exact decode_encode fits

theorem parse_print (plan : Plan) : Plan.parse (Json.print (encode plan)) "json" = .ok plan := by
  have back : PlanFormat.json.read? (Json.print (encode plan)) = some plan := readsBack_of_lawful plan trivial
  have format : PlanFormat.ofExtension? "json" = some .json := rfl
  rw [Plan.parse, format]
  simp only [back]

theorem records_readBack :
    ReadsBack Element ∧ ReadsBack Stats ∧ ReadsBack Metadata ∧ ReadsBack Outline ∧ ReadsBack Group ∧
      ReadsBack Selection ∧ ReadsBack Issue ∧ ReadsBack Warning ∧ ReadsBack Report ∧ ReadsBack Plan ∧
      ∀ plan : Plan, Plan.parse (Json.print (encode plan)) "json" = .ok plan :=
  ⟨readsBack_of_lawful, readsBack_of_lawful, readsBack_of_lawful, readsBack_of_lawful, readsBack_of_lawful,
    readsBack_of_lawful, readsBack_of_lawful, readsBack_of_lawful, readsBack_of_lawful, readsBack_of_lawful,
    parse_print⟩

namespace Extreme

def text : Text := ['"', '\\', '/', '\n', '\r', '\t', '\x08', '\x0c', '\x00', '\x1f', '\x7f', 'é', '𝄞']

def element : Element := ⟨.classDecl, text, [[], text], Selection.maxIndex⟩

def stats : Stats :=
  ⟨Selection.maxIndex, Selection.maxIndex, Selection.maxIndex, Selection.maxIndex, Selection.maxIndex,
    Selection.maxIndex⟩

def metadata : Metadata := ⟨Selection.maxIndex, text, []⟩

def outline : Outline := ⟨text, Selection.maxIndex, [element], stats, metadata⟩

def group : Group := ⟨text, true, [element]⟩

def selection : Selection := ⟨[0, Selection.maxIndex], [text]⟩

def issue : Issue := ⟨text, some Selection.maxIndex, .outOfRange Selection.maxIndex⟩

def report : Report :=
  { source := text
    defaultDestination := []
    stats
    files := [⟨text, text, Selection.maxIndex, 0, true⟩]
    issues := [issue, ⟨[], none, .noNumbers⟩, ⟨text, some 0, .alreadyClaimed text⟩]
    metadata }

def plan : Plan := { source := text, default := text, entries := [⟨text, []⟩] }

end Extreme

theorem records_readBack_extreme :
    reread Extreme.element = some Extreme.element ∧ reread Extreme.stats = some Extreme.stats ∧
      reread Extreme.metadata = some Extreme.metadata ∧ reread Extreme.outline = some Extreme.outline ∧
      reread Extreme.group = some Extreme.group ∧ reread Extreme.selection = some Extreme.selection ∧
      reread Extreme.issue = some Extreme.issue ∧
      reread (Warning.duplicateDestination Extreme.text) = some (.duplicateDestination Extreme.text) ∧
      reread Extreme.report = some Extreme.report ∧ reread Extreme.plan = some Extreme.plan ∧
      Plan.parse (Json.print (encode Extreme.plan)) "json" = .ok Extreme.plan := by
  obtain ⟨element, stats, metadata, outline, group, selection, issue, warning, report, plan, parsed⟩ :=
    records_readBack
  have fitsElement : Fits Extreme.element := Nat.le_refl _
  have fitsElements : Fits [Extreme.element] := List.forall_mem_singleton.mpr fitsElement
  have fitsStats : Fits Extreme.stats := by simp [Fits, Extreme.stats]
  have fitsMetadata : Fits Extreme.metadata := Nat.le_refl _
  have fitsSelection : Fits Extreme.selection := by simp [Fits, Extreme.selection]
  have fitsIssue : Fits Extreme.issue := by simp [Fits, Extreme.issue]
  have fitsFiles : Fits Extreme.report.files := by simp [Fits, Extreme.report]
  have fitsIssues : Fits Extreme.report.issues := by simp [Fits, Extreme.report, Extreme.issue]
  exact ⟨element _ fitsElement, stats _ fitsStats, metadata _ fitsMetadata,
    outline _ ⟨Nat.le_refl _, fitsElements, fitsStats, fitsMetadata⟩, group _ fitsElements,
    selection _ fitsSelection, issue _ fitsIssue, warning _ trivial,
    report _ ⟨fitsStats, fitsFiles, fitsIssues, fitsMetadata⟩, plan _ trivial, parsed _⟩

end ScriptSplit
