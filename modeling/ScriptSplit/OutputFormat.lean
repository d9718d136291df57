import ScriptSplit.Json
import ScriptSplit.Record.Basic
import ScriptSplit.Record.Types
import ScriptSplit.Report
import ScriptSplit.Yaml.Scalar

namespace ScriptSplit.Yaml

def endLine (text : Text) : Text :=
  if text.getLast?.any isBreak then text else text ++ ['\n']

mutual

def after (column : Nat) (dashed : Bool) : Value → Text
  | .null => " null\n"
  | .bool true => " true\n"
  | .bool false => " false\n"
  | .int value => ' ' :: Text.integer value ++ ['\n']
  | .text value => ' ' :: endLine (scalar (column + 2) value)
  | .foreign literal => ' ' :: literal ++ ['\n']
  | .list [] => " []\n"
  | .list items =>
    if dashed then ' ' :: listLines (column + 2) true items else '\n' :: listLines column false items
  | .record [] => " \x7b\x7d\n"
  | .record fields => (if dashed then ' ' else '\n') :: recordLines (column + 2) dashed fields

def listLines (column : Nat) (inPlace : Bool) : List Value → Text
  | [] => []
  | item :: rest =>
    (if inPlace then [] else indentation column) ++ '-' :: after column true item ++
      listLines column false rest

def recordLines (column : Nat) (inPlace : Bool) : List (Text × Value) → Text
  | [] => []
  | (key, value) :: rest =>
    (if inPlace then [] else indentation column) ++ scalar column key ++ ':' :: after column false value ++
      recordLines column false rest

end

def print : Value → Text
  | .list (item :: rest) => listLines 0 true (item :: rest)
  | .record (field :: rest) => recordLines 0 true (field :: rest)
  | .text value => endLine (scalar 0 value)
  | value => (after 0 false value).drop 1

end ScriptSplit.Yaml

/-! ## Output formats -/

namespace ScriptSplit

inductive OutputFormat where
  | json
  | yaml
  | summary
  deriving DecidableEq, Repr

def OutputFormat.ofWord? (word : Text) : Option OutputFormat :=
  if word = "json".toList then some .json
  else if word = "yaml".toList then some .yaml
  else if word = "summary".toList then some .summary
  else none

def Outline.show (outline : Outline) : OutputFormat → Text
  | .json => Json.print (encode outline)
  | .yaml => Yaml.print (encode outline)
  | .summary => outline.summary

def Report.show (report : Report) : OutputFormat → Text
  | .json => Json.print (encode report)
  | .yaml => Yaml.print (encode report)
  | .summary => report.summary

end ScriptSplit
