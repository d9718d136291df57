import ScriptSplit.Assignment
import ScriptSplit.Text.Basic

namespace ScriptSplit

inductive Value where
  | null
  | bool (value : Bool)
  | int (value : Int)
  | text (value : Text)
  /-- A well-formed value of no type used here, such as a date or a number with a fraction. -/
  | foreign (literal : Text)
  | list (items : List Value)
  | record (fields : List (Text × Value))
  deriving Repr

/-! ## Records -/

class Recorded (α : Type) where
  encode : α → Value
  decode : Value → Option α

export Recorded (encode decode)

namespace Value

def field (fields : List (Text × Value)) (spellings : List Text) : Option (Option Value) :=
  match fields.filter fun (key, _) => spellings.contains key with
  | [] => some none
  | [(_, value)] => some (some value)
  | _ => none

def namedFields (value : Value) (names : List (List Text)) : Option (List (Option Value)) :=
  match value with
  | .record fields => names.mapM (field fields)
  | _ => none

def fields (value : Value) (names : List (List Text)) : Option (List (Option Value)) :=
  match value with
  | .list items =>
    if items.length ≤ names.length then
      some (items.map some ++ List.replicate (names.length - items.length) none)
    else none
  | value => value.namedFields names

def required {α : Type} [Recorded α] (field : Option Value) : Option α := field.bind decode

def orDefault {α : Type} [Recorded α] (default : α) (field : Option Value) : Option α :=
  match field with
  | none => some default
  | some value => decode value

end Value

instance : Recorded Text where
  encode := .text
  decode
    | .text text => some text
    | _ => none

instance : Recorded Bool where
  encode := .bool
  decode
    | .bool flag => some flag
    | _ => none

instance : Recorded Nat where
  encode n := .int n
  decode
    | .int (.ofNat n) => if n ≤ Selection.maxIndex then some n else none
    | _ => none

instance {α : Type} [Recorded α] : Recorded (List α) where
  encode items := .list (items.map encode)
  decode
    | .list items => items.mapM decode
    | _ => none

instance {α : Type} [Recorded α] : Recorded (Option α) where
  encode
    | none => .null
    | some item => encode item
  decode
    | .null => some none
    | value => (decode value).map some

def encodeField {α : Type} [Recorded α] (key : Text) (item : α) : List (Text × Value) := [(key, encode item)]

def encodeUnless {α : Type} [Recorded α] (absent : Bool) (key : Text) (item : α) : List (Text × Value) :=
  if absent then [] else encodeField key item

end ScriptSplit
