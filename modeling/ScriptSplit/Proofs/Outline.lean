import ScriptSplit.Disk
import ScriptSplit.Proofs.Scanner.Slices
import ScriptSplit.Proofs.Text.Lines
import ScriptSplit.Split

namespace ScriptSplit

theorem Text.ofBytes?_bytes (text : Text) : Text.ofBytes? text.bytes = some text := by
  have valid : (String.ofList text).toUTF8.IsValidUTF8 := (String.ofList text).isValidUTF8
  rw [Text.ofBytes?, Text.bytes, String.fromUTF8?, dif_pos valid]
  exact congrArg some String.toList_ofList

namespace OnDisk

theorem run_notes (entries : List Log.Entry) (disk : Disk) :
    (Host.notes entries : OnDisk PUnit).run disk = (⟨⟩, disk) := by
  induction entries with
  | nil => rfl
  | cons entry rest ih => exact ih

variable {disk : Disk} {path source : Text}

theorem run_readText (holds : disk.read path = .ok source.bytes) :
    (Host.readText path : OnDisk (Except FileError Text)).run disk = (.ok source, disk) := by
  have read : (Host.read path : OnDisk (Except FileError ByteArray)).run disk = (.ok source.bytes, disk) :=
    congrArg (·, disk) holds
  rw [Host.readText, StateT.run_bind, read]
  exact congrArg (fun text => (Option.elim text (Except.error FileError.notUtf8) Except.ok, disk))
    (Text.ofBytes?_bytes source)

theorem run_scanFile (holds : disk.read path = .ok source.bytes) :
    (scanFile path : OnDisk (Except SplitError Outline)).run disk =
      (.ok (Outline.ofSource path source), disk) := by
  rw [scanFile, StateT.run_bind, run_readText holds]
  exact congrArg (fun after => (Except.ok (Outline.ofSource path source), after.2))
    (run_notes (Scanner.log {} source.lines) disk)

end OnDisk

/-- Every element is a run of the lines of the source, each ends before the next one starts, and an outline
counts the lines and those in some element. -/
theorem scan_slices (source : Text) :
    (∀ element ∈ scan source, element.lines ≠ [] ∧ 1 ≤ element.startLine ∧
      element.endLine ≤ source.pieces.length ∧
      element.lines = (source.pieces.drop (element.startLine - 1)).take
        (element.endLine + 1 - element.startLine)) ∧
    ((scan source).Pairwise fun earlier later => earlier.endLine < later.startLine) ∧
    ∀ (disk : Disk) (path : Text), disk.read path = .ok source.bytes →
      ∃ outline, (scanFile path : OnDisk (Except SplitError Outline)).run disk = (.ok outline, disk) ∧
        outline.elements = scan source ∧ outline.lineCount = source.pieces.length ∧
        outline.stats.coveredLines = (List.range' 1 source.pieces.length).countP fun number =>
          (scan source).any fun element => element.startLine ≤ number && number ≤ element.endLine := by
  have laid := laid_scan source
  rw [Text.lines_eq_pieces] at laid
  refine ⟨fun element member => ?_, laid.ordered, fun disk path holds => ?_⟩
  · have stands := laid.standing element member
    exact ⟨stands.nonempty, stands.startLine_pos, stands.endLine_le, stands.verbatim⟩
  · refine ⟨Outline.ofSource path source, OnDisk.run_scanFile holds, rfl, ?_, laid.length_flatMap_lines⟩
    rw [← Text.lines_eq_pieces]
    exact Text.length_bareLines source

def commentedScript : Text := "let x = 1;\r\n\nfunction f() \x7b\n/* \x7d */\n\x7d\nf();"

def scriptDisk : Disk := { entries := [([['a']], .file commentedScript.bytes)] }

theorem scan_slices_commentedScript :
    scriptDisk.read ['a'] = .ok commentedScript.bytes ∧
    ∃ outline, (scanFile ['a'] : OnDisk (Except SplitError Outline)).run scriptDisk = (.ok outline, scriptDisk) ∧
      outline.elements = scan commentedScript ∧ outline.lineCount = commentedScript.pieces.length ∧
      outline.stats.coveredLines = (List.range' 1 commentedScript.pieces.length).countP fun number =>
        (scan commentedScript).any fun element => element.startLine ≤ number && number ≤ element.endLine :=
  have holds : scriptDisk.read ['a'] = .ok commentedScript.bytes := rfl
  ⟨holds, (scan_slices commentedScript).2.2 scriptDisk ['a'] holds⟩

end ScriptSplit
