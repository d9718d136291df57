import ScriptSplit.Config
import ScriptSplit.Json
import ScriptSplit.Record.Types
import ScriptSplit.Text.Case
import ScriptSplit.Toml.Reader
import ScriptSplit.Yaml.Document

namespace ScriptSplit.Plan

open Yaml

def nodeField (entries : List (Text × Node)) (spellings : List Text) : Option (Option Node) :=
  match entries.filter fun (key, _) => spellings.elem key with
  | [] => some none
  | [(_, node)] => some (some node)
  | _ => none

def entryOfNode (document : Document) (node : Node) : Document.Look PlanEntry := do
  let entries ← document.entries node
  let label ← nodeField entries ["label"]
  let select ← nodeField entries ["select"]
  return {
    label := ← document.text (← label)
    select := ← (select.map document.text).getD (pure []) }

def ofNode (document : Document) (node : Node) : Document.Look Plan := do
  let entries ← document.entries node
  let source ← nodeField entries ["source"]
  let outputDir ← nodeField entries ["output_dir"]
  let default ← nodeField entries ["default"]
  let destinations ← nodeField entries entriesKey
  return {
    source := ← document.text (← source)
    outputDir := ← (outputDir.map document.optionalText).getD (pure none)
    default := ← document.text (← default)
    entries := ← (destinations.map fun node => do
      (← document.items node).mapM (entryOfNode document)).getD (pure []) }

def ofDocument? (document : Document) : Option Plan := document.look? (ofNode document document.root)

end ScriptSplit.Plan

/-! ## Plan files -/

namespace ScriptSplit

inductive PlanFormat where
  | toml
  | json
  | yaml
  deriving DecidableEq, Repr

namespace PlanFormat

def ofExtension? (extension : Text) : Option PlanFormat :=
  if extension = "toml".toList then some toml
  else if extension = "json".toList then some json
  else if extension = "yaml".toList ∨ extension = "yml".toList then some yaml
  else none

/-- The plan in a text, if it has the format and the fields. In TOML the surplus items of a destination given
as a list do not count. -/
def read? (format : PlanFormat) (content : Text) : Option Plan :=
  match format with
  | toml => (Toml.read content).bind fun value => decode (Plan.dropSurplus value)
  | json => (Json.read content).bind decode
  | yaml => (Yaml.Document.ofText? content).bind Plan.ofDocument?

def error : PlanFormat → ConfigError
  | toml => .toml
  | json => .json
  | yaml => .yaml

end PlanFormat

def Plan.parse (content extension : Text) : Except ConfigError Plan :=
  match PlanFormat.ofExtension? extension with
  | none => .error (.unsupportedPlan extension)
  | some format =>
    match format.read? content with
    | some plan => .ok plan
    | none => .error format.error

/-! ## Plans on a host -/

variable {m : Type → Type} [Monad m] [Host m]

def Plan.load (path : Text) : m (Except ConfigError Plan) := do
  match ← Host.readText path with
  | .error error => return .error (.io error)
  | .ok content => return Plan.parse content ((Path.extension? path).getD []).toSmall

end ScriptSplit
