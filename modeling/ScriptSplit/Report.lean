import ScriptSplit.Assignment
import ScriptSplit.Scanner

namespace ScriptSplit

/-- When and by which version something was made. The clock is not read here: time and duration are blank. -/
structure Metadata where
  durationMs : Nat := 0
  timestamp : Text := []
  version : Text := "0.1.0"
  deriving DecidableEq, Repr

structure Outline where
  path : Text
  lineCount : Nat
  elements : List Element
  stats : Stats
  metadata : Metadata := {}
  deriving DecidableEq, Repr

namespace Outline

def ofSource (path source : Text) : Outline :=
  let elements := scan source
  { path, lineCount := source.bareLines.length, elements, stats := Stats.ofElements elements }

def movable (outline : Outline) : List Element := Element.movable outline.elements

end Outline

/-! ## Reports -/

structure WrittenFile where
  label : Text
  path : Text
  bytes : Nat
  elementCount : Nat
  written : Bool
  deriving DecidableEq, Repr

structure WriteFailure where
  label : Text
  path : Text
  error : Text
  deriving DecidableEq, Repr

structure Report where
  source : Text
  defaultDestination : Text
  stats : Stats
  files : List WrittenFile
  warnings : List Warning := []
  issues : List Issue := []
  failures : List WriteFailure := []
  metadata : Metadata := {}
  deriving DecidableEq, Repr

def Report.isClean (report : Report) : Bool :=
  report.warnings.isEmpty && report.issues.isEmpty && report.failures.isEmpty

/-! ## Listings -/

def numbered {α : Type} (items : List α) (write : Nat → α → Text) : Text :=
  (items.zipIdx 1).flatMap fun (item, number) => write number item

namespace Outline

def movableList (outline : Outline) : Text :=
  numbered outline.movable fun number element =>
    Text.line (Text.numeral number ++ ". " ++ element.kind.word ++ " '" ++ element.name ++ ['\''])

def heading (outline : Outline) : Text :=
  let stats := outline.stats
  Text.line ("File: " ++ outline.path) ++
  Text.line ("Lines: " ++ Text.numeral outline.lineCount) ++
  Text.line ("Elements: " ++ Text.numeral stats.total ++ " (imports: " ++ Text.numeral stats.importCount ++
    ", variables: " ++ Text.numeral stats.variableCount ++ ", functions: " ++ Text.numeral stats.functionCount ++
    ", classes: " ++ Text.numeral stats.classCount ++ [')']) ++
  Text.line []

def sharedList (outline : Outline) : Text :=
  let shared := Element.shared outline.elements
  if shared.isEmpty then []
  else
    Text.line "Shared (copied into every destination):" ++
    (shared.flatMap fun element =>
      Text.line ("  " ++ element.kind.word ++ ' ' :: element.name ++ " (line " ++
        Text.numeral element.startLine ++ [')'])) ++
    Text.line []

def summary (outline : Outline) : Text :=
  outline.heading ++ outline.sharedList ++
  Text.line ("Found " ++ Text.numeral outline.stats.movable ++ " functions/classes:") ++
  numbered outline.movable fun number element =>
    Text.line (Text.numeral number ++ ". " ++ element.kind.word ++ ": " ++ element.name ++ " (lines " ++
      Text.numeral element.startLine ++ '-' :: Text.numeral element.endLine ++ [')'])

end Outline

namespace Report

def fileLine (file : WrittenFile) : Text :=
  Text.line ((if file.written then ("Created" : Text) else "Would create") ++ ": " ++ file.path ++ " (" ++
    Text.numeral file.elementCount ++ " elements, " ++ Text.numeral file.bytes ++ " bytes)")

def issueLine (issue : Issue) : Text :=
  match issue.index with
  | some index =>
    Text.line ("Element " ++ Text.numeral index ++ " for " ++ issue.destination ++ ": " ++ issue.reason.message)
  | none => Text.line (issue.destination ++ ": " ++ issue.reason.message)

def summary (report : Report) : Text :=
  Text.line "Split Summary" ++ Text.line "=============" ++
  Text.line ("Source: " ++ report.source) ++
  Text.line ("Default destination: " ++ report.defaultDestination) ++ Text.line [] ++
  report.files.flatMap fileLine ++
  (report.failures.flatMap fun failure =>
    Text.line ("Error writing " ++ failure.label ++ ": " ++ failure.error)) ++
  (report.warnings.flatMap fun warning => Text.line ("Warning: " ++ warning.message)) ++
  report.issues.flatMap issueLine

end Report
end ScriptSplit
