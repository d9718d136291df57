import ScriptSplit.Record.Basic
import ScriptSplit.Toml.Scalar

namespace ScriptSplit.Toml

inductive Node where
  | value (value : Value)
  | table (implicit dotted : Bool) (fields : List (Text × Node))
  | tables (items : List Node)

namespace Node

def empty : Node := .table false false []

def setField (fields : List (Text × Node)) (key : Text) (node : Node) : List (Text × Node) :=
  match fields with
  | [] => [(key, node)]
  | (name, present) :: rest =>
    if name = key then (key, node) :: rest else (name, present) :: setField rest key node

/-- Changes the table that a path leads to, making the tables on the way. A repeated header stands for its
last table. Dotted keys may not pass through a table that was defined. -/
def descend (dotted : Bool) (change : Node → Option Node) : List Text → Node → Option Node
  | [], node => change node
  | key :: path, .table isImplicit isDotted fields =>
    match fields.lookup key with
    | none =>
      (descend dotted change path (.table true dotted [])).map fun node =>
        .table isImplicit isDotted (setField fields key node)
    | some (.tables (last :: earlier)) =>
      (descend dotted change path last).map fun node =>
        .table isImplicit isDotted (setField fields key (.tables (node :: earlier)))
    | some (.table childImplicit childDotted childFields) =>
      if dotted && !childImplicit then none
      else
        (descend dotted change path (.table childImplicit childDotted childFields)).map fun node =>
          .table isImplicit isDotted (setField fields key node)
    | some _ => none
  | _ :: _, _ => none

def define (path : List Text) (key : Text) : Node → Option Node :=
  descend false (fun
    | .table isImplicit isDotted fields =>
      match fields.lookup key with
      | none => some (.table isImplicit isDotted (setField fields key empty))
      | some (.table true false inner) =>
        some (.table isImplicit isDotted (setField fields key (.table false false inner)))
      | some _ => none
    | _ => none) path

def repeated (path : List Text) (key : Text) : Node → Option Node :=
  descend false (fun
    | .table isImplicit isDotted fields =>
      match fields.lookup key with
      | none => some (.table isImplicit isDotted (setField fields key (.tables [empty])))
      | some (.tables items) =>
        some (.table isImplicit isDotted (setField fields key (.tables (empty :: items))))
      | some _ => none
    | _ => none) path

def assign (path : List Text) (key : Text) (value : Value) : Node → Option Node :=
  descend true (fun
    | .table isImplicit isDotted fields =>
      if isDotted == path.isEmpty || (fields.lookup key).isSome then none
      else some (.table isImplicit isDotted (setField fields key (.value value)))
    | _ => none) path

mutual

def toValue : Node → Value
  | .value held => held
  | .table _ _ fields => .record (fieldValues fields)
  | .tables items => .list (itemValues items).reverse

def fieldValues : List (Text × Node) → List (Text × Value)
  | [] => []
  | (key, node) :: rest => (key, toValue node) :: fieldValues rest

def itemValues : List Node → List Value
  | [] => []
  | node :: rest => toValue node :: itemValues rest

end

end Node

def splitKey? (parts : List Text) : Option (List Text × Text) :=
  parts.getLast?.map fun last => (parts.dropLast, last)

/-! ## Reading TOML -/

mutual

def value? (fuel room : Nat) (text : Text) : Option (Value × Text) :=
  match fuel with
  | 0 => none
  | fuel + 1 =>
    match text with
    | '"' :: _ | '\'' :: _ => (string? text).map fun (text, rest) => (.text text, rest)
    | '[' :: rest =>
      match room with
      | 0 => none
      | room + 1 => (items? fuel room rest).map fun (items, rest) => (.list items, rest)
    | '{' :: rest =>
      match room with
      | 0 => none
      | room + 1 => do
        let (pairs, rest) ←
          match skipSpace rest with
          | '}' :: rest => some ([], rest)
          | rest => pairs? fuel room rest
        let table ← pairs.foldlM (fun table (parts, value) => do
          let (path, key) ← splitKey? parts
          Node.assign path key value table) Node.empty
        return (table.toValue, rest)
    | 't' :: _ => (text.after? "true").map fun rest => (.bool true, rest)
    | 'f' :: _ => (text.after? "false").map fun rest => (.bool false, rest)
    | 'i' :: _ => word? "inf" text
    | 'n' :: _ => word? "nan" text
    | text => numeric? text

def items? (fuel room : Nat) (text : Text) : Option (List Value × Text) :=
  match fuel with
  | 0 => none
  | fuel + 1 => do
    match ← skipLines text with
    | ']' :: rest => return ([], rest)
    | rest =>
      let (item, rest) ← value? fuel room rest
      match ← skipLines rest with
      | ']' :: rest => return ([item], rest)
      | ',' :: rest =>
        let (later, rest) ← items? fuel room rest
        return (item :: later, rest)
      | _ => none

def pairs? (fuel room : Nat) (text : Text) : Option (List (List Text × Value) × Text) :=
  match fuel with
  | 0 => none
  | fuel + 1 => do
    let (parts, rest) ← key? text
    let (value, rest) ← value? fuel room (skipSpace (← expect? '=' rest))
    match skipSpace rest with
    | '}' :: rest => return ([(parts, value)], rest)
    | ',' :: rest =>
      let (later, rest) ← pairs? fuel room rest
      return ((parts, value) :: later, rest)
    | _ => none

end

structure Document where
  root : Node := Node.empty
  current : List Text := []

namespace Document

def header? (document : Document) (text : Text) : Option (Document × Text) := do
  let (parts, rest) ← key? text
  let (path, key) ← splitKey? parts
  let rest ← endLine? (← expect? ']' rest)
  return (⟨← document.root.define path key, parts⟩, rest)

def repeatedHeader? (document : Document) (text : Text) : Option (Document × Text) := do
  let (parts, rest) ← key? text
  let (path, key) ← splitKey? parts
  let rest ← endLine? (← expect? ']' (← expect? ']' rest))
  return (⟨← document.root.repeated path key, parts⟩, rest)

def pair? (document : Document) (text : Text) : Option (Document × Text) := do
  let (parts, rest) ← key? text
  let (path, key) ← splitKey? parts
  let (value, rest) ← value? (2 * text.length + 2) (depthLimit - 1) (skipSpace (← expect? '=' rest))
  let rest ← endLine? rest
  let root ← document.root.descend false (Node.assign path key value) document.current
  return ({ document with root }, rest)

def line? (document : Document) (text : Text) : Option (Document × Text) :=
  match skipSpace text with
  | [] => some (document, [])
  | '#' :: rest => (endLine? ('#' :: rest)).map (document, ·)
  | '\n' :: rest => some (document, rest)
  | '\r' :: rest => (newline? ('\r' :: rest)).map (document, ·)
  | '[' :: '[' :: rest => document.repeatedHeader? rest
  | '[' :: rest => document.header? rest
  | rest => document.pair? rest

def readWithin (document : Document) : Nat → Text → Option Document
  | _, [] => some document
  | 0, _ => none
  | fuel + 1, text => do
    let (document, rest) ← document.line? text
    document.readWithin fuel rest

end Document

def read (text : Text) : Option Value :=
  let text := if text.head? == some '\ufeff' then text.drop 1 else text
  (Document.readWithin {} (text.length + 1) text).map fun document => document.root.toValue

end ScriptSplit.Toml
