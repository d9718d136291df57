import ScriptSplit.Proofs.Json.Layout
import ScriptSplit.Record.Basic

namespace ScriptSplit

/-- Types with a size limit: data fits if none of its numbers is above `Selection.maxIndex`. -/
class Sized (α : Type) where
  Fits : α → Prop

export Sized (Fits)

class LawfulRecorded (α : Type) [Recorded α] [Sized α] : Prop where
  plain_encode (item : α) : (encode item).Plain
  decode_encode {item : α} (fits : Fits item) : decode (encode item) = some item

export LawfulRecorded (plain_encode decode_encode)

attribute [simp] plain_encode

instance : Sized Text := ⟨fun _ => True⟩

instance : Sized Bool := ⟨fun _ => True⟩

instance : Sized Nat := ⟨(· ≤ Selection.maxIndex)⟩

instance {α : Type} [Sized α] : Sized (List α) := ⟨fun items => ∀ item ∈ items, Fits item⟩

instance {α : Type} [Sized α] : Sized (Option α) := ⟨fun item? => ∀ item ∈ item?, Fits item⟩

@[simp] theorem fits_text (text : Text) : Fits text := trivial

@[simp] theorem fits_bool (flag : Bool) : Fits flag := trivial

@[simp] theorem fits_list {α : Type} [Sized α] {items : List α} (each : ∀ item : α, Fits item) : Fits items :=
  fun item _ => each item

@[simp] theorem fits_option {α : Type} [Sized α] {item? : Option α} (each : ∀ item : α, Fits item) : Fits item? :=
  fun item _ => each item

instance : LawfulRecorded Text where
  plain_encode := .text
  decode_encode _ := rfl

instance : LawfulRecorded Bool where
  plain_encode := .bool
  decode_encode _ := rfl

instance : LawfulRecorded Nat where
  plain_encode n := .int n
  decode_encode fits := if_pos fits

theorem decode_of_ne_null {α : Type} [Recorded α] {value : Value} (present : value ≠ .null) :
    (decode value : Option (Option α)) = (decode value).map some := by
  cases value with
  | null => exact absurd rfl present
  | _ => rfl

section Lawful
variable {α : Type} [Recorded α] [Sized α] [LawfulRecorded α]

instance : LawfulRecorded (List α) where
  plain_encode items := .list (List.forall_mem_map.mpr fun item _ => plain_encode item)
  decode_encode {items} fits := by
    change (items.map encode).mapM decode = some items
    induction items with
    | nil => rfl
    | cons item items ih =>
        have first : decode (encode item) = some item := decode_encode (fits item List.mem_cons_self)
        rw [List.map_cons, List.mapM_cons, first, ih fun item member => fits item (List.mem_cons_of_mem _ member)]
        rfl

theorem lawfulRecorded_option (present : ∀ item : α, encode item ≠ .null) : LawfulRecorded (Option α) where
  plain_encode
    | none => .null
    | some item => plain_encode item
  decode_encode {item?} fits := by
    cases item? with
    | none => rfl
    | some item =>
        change decode (encode item) = _
        rw [decode_of_ne_null (present item), decode_encode (fits item rfl)]
        rfl

instance : LawfulRecorded (Option Text) := lawfulRecorded_option fun _ => nofun

instance : LawfulRecorded (Option Nat) := lawfulRecorded_option fun _ => nofun

theorem required_encode {item : α} (fits : Fits item) : Value.required (some (encode item)) = some item :=
  decode_encode fits

theorem orDefault_encode {item : α} (default : α) (fits : Fits item) :
    Value.orDefault default (some (encode item)) = some item := decode_encode fits

def writtenUnless (absent : Bool) (item : α) : Option Value := if absent then none else some (encode item)

theorem orDefault_writtenUnless {item default : α} {absent : Bool} (blank : absent = true → item = default)
    (fits : Fits item) : Value.orDefault default (writtenUnless absent item) = some item := by
  cases absent with
  | false => exact decode_encode fits
  | true =>
      rw [blank rfl]
      rfl

def PlainFields (fields : List (Text × Value)) : Prop := ∀ field ∈ fields, field.2.Plain

@[simp] theorem plainFields_nil : PlainFields [] := nofun

@[simp] theorem plainFields_cons {key : Text} {value : Value} {fields : List (Text × Value)} :
    PlainFields ((key, value) :: fields) ↔ value.Plain ∧ PlainFields fields := List.forall_mem_cons

@[simp] theorem plainFields_append {first later : List (Text × Value)} :
    PlainFields (first ++ later) ↔ PlainFields first ∧ PlainFields later := List.forall_mem_append

@[simp] theorem plainFields_encodeField (key : Text) (item : α) : PlainFields (encodeField key item) := by
  simp [encodeField]

@[simp] theorem plainFields_encodeUnless (absent : Bool) (key : Text) (item : α) :
    PlainFields (encodeUnless absent key item) := by
  cases absent <;> simp [encodeUnless]

end Lawful

end ScriptSplit
