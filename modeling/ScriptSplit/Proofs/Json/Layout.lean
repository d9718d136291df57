import ScriptSplit.Proofs.Json.Lexical

namespace ScriptSplit

inductive Value.Plain : Value → Prop where
  | null : Value.Plain .null
  | bool (flag : Bool) : Value.Plain (.bool flag)
  | int (n : Int) : Value.Plain (.int n)
  | text (text : Text) : Value.Plain (.text text)
  | list {items : List Value} : (∀ item ∈ items, item.Plain) → Value.Plain (.list items)
  | record {fields : List (Text × Value)} : (∀ field ∈ fields, field.2.Plain) → Value.Plain (.record fields)

namespace Json

variable {rest : Text} {level fuel : Nat}

def Opens (text : Text) : Prop :=
  ∀ c ∈ text.head?, c ≠ ' ' ∧ c ≠ '\t' ∧ c ≠ '\n' ∧ c ≠ '\r' ∧ c ≠ ']' ∧ c ≠ '}'

theorem skipSpace_of_opens {text : Text} (opens : Opens text) : skipSpace text = text := by
  cases text with
  | nil => rfl
  | cons c text =>
      obtain ⟨space, tab, feed, back, -⟩ := opens c rfl
      simp [skipSpace, space, tab, feed, back]

theorem opens_quote (text rest : Text) : Opens (quote text ++ rest) := by
  simp [Opens, quote_append]

theorem ne_of_isDigit {c d : Char} (digit : c.isDigit = true) (other : d.isDigit = false) : c ≠ d := by
  rintro rfl
  rw [digit] at other
  cases other

theorem opens_layout {v : Value} (plain : v.Plain) (level : Nat) (rest : Text) : Opens (layout level v ++ rest) := by
  cases plain with
  | null => simp [Opens, layout]
  | bool flag => cases flag <;> simp [Opens, layout]
  | int n =>
      obtain ⟨c, text, written, opening⟩ := exists_cons_integer n
      intro d same
      rw [layout, written] at same
      obtain rfl : c = d := Option.some.inj same
      rcases opening with rfl | digit
      · decide
      · exact ⟨ne_of_isDigit digit rfl, ne_of_isDigit digit rfl, ne_of_isDigit digit rfl, ne_of_isDigit digit rfl,
          ne_of_isDigit digit rfl, ne_of_isDigit digit rfl⟩
  | text text => exact opens_quote text rest
  | list | record => simp [Opens, layout]

theorem value_append {padding : Text} (blank : Padding padding) (fuel : Nat) (text : Text) :
    value fuel (padding ++ text) = value fuel text := by
  cases fuel with
  | zero => rfl
  | succ fuel => rw [value, value, skipSpace_append blank]

theorem fields_append {padding : Text} (blank : Padding padding) (fuel : Nat) (text : Text) :
    fields fuel (padding ++ text) = fields fuel text := by
  cases fuel with
  | zero => rfl
  | succ fuel => rw [fields, fields, skipSpace_append blank]

theorem after?_of_ne {c d : Char} (other : c ≠ d) (text word : Text) : Text.after? (c :: text) (d :: word) = none := by
  simp [Text.after?, Ne.symm other]

theorem value_integer (n : Int) (fuel : Nat) (ends : EndsNumber rest) :
    value (fuel + 1) (Text.integer n ++ rest) = some (.int n, rest) := by
  rw [← number_integer n ends]
  have opens := skipSpace_of_opens (opens_layout (.int n) 0 rest)
  obtain ⟨c, text, written, opening⟩ := exists_cons_integer n
  have other {d : Char} (noDigit : d.isDigit = false) (noMinus : d ≠ '-') : c ≠ d := by
    rcases opening with rfl | digit
    · exact noMinus.symm
    · exact ne_of_isDigit digit noDigit
  rw [layout, written] at opens
  rw [value, written, opens, List.cons_append]
  split
  · next quotation => exact absurd (List.cons.inj quotation).1 (other rfl (by decide))
  · next bracket => exact absurd (List.cons.inj bracket).1 (other rfl (by decide))
  · next brace => exact absurd (List.cons.inj brace).1 (other rfl (by decide))
  · have null : Text.after? (c :: (text ++ rest)) "null" = none := after?_of_ne (other rfl (by decide)) _ _
    have true : Text.after? (c :: (text ++ rest)) "true" = none := after?_of_ne (other rfl (by decide)) _ _
    have false : Text.after? (c :: (text ++ rest)) "false" = none := after?_of_ne (other rfl (by decide)) _ _
    rw [null, true, false]

theorem value_quote (text : Text) (fuel : Nat) (rest : Text) :
    value (fuel + 1) (quote text ++ rest) = some (.text text, rest) := by
  obtain ⟨later, read, assembled⟩ := units_flatMap_escape text rest
  rw [value, skipSpace_of_opens (opens_quote text rest), quote_append]
  simp [read, assembled]

def ReadBack (v : Value) : Prop :=
  ∀ (level fuel : Nat) (rest : Text), (layout level v).length ≤ fuel → EndsNumber rest →
    value (fuel + 1) (layout level v ++ rest) = some (v, rest)

theorem ReadBack.of_lt {v : Value} (back : ReadBack v) (enough : (layout level v).length < fuel)
    (ends : EndsNumber rest) : value fuel (layout level v ++ rest) = some (v, rest) := by
  obtain ⟨less, rfl⟩ := Nat.exists_eq_add_of_lt enough
  exact back level _ rest (by omega) ends

theorem endsNumber_layoutItems (level : Nat) (more : List Value) (rest : Text) :
    EndsNumber (layoutItems level false more ++ rest) := by
  cases more <;> exact endsNumber_cons (by decide) _

theorem endsNumber_layoutFields (level : Nat) (more : List (Text × Value)) (rest : Text) :
    EndsNumber (layoutFields level false more ++ rest) := by
  cases more <;> exact endsNumber_cons (by decide) _

theorem items_layoutItems (level : Nat) {item : Value} {more : List Value} (each : ∀ v ∈ item :: more, ReadBack v)
    (enough : (layout (level + 1) item).length + (layoutItems level false more).length < fuel)
    {padding : Text} (blank : Padding padding) (rest : Text) :
    items (fuel + 1) (padding ++ (layout (level + 1) item ++ (layoutItems level false more ++ ']' :: rest))) =
      some (item :: more, rest) := by
  -- A step takes one fuel and passes over a comma at least, so what is left stays enough.
  induction more generalizing item fuel padding with
  | nil =>
      have closed : skipSpace (layoutItems level false [] ++ ']' :: rest) = ']' :: rest :=
        skipSpace_append (padding_newline level) _
      have short : (layout (level + 1) item).length < fuel := by omega
      have read := (each item List.mem_cons_self).of_lt short
        (endsNumber_layoutItems level [] (']' :: rest))
      rw [items, value_append blank, read]
      simp [closed]
  | cons next more ih =>
      have goesOn : layoutItems level false (next :: more) ++ ']' :: rest =
          ',' :: (newline (level + 1) ++
            (layout (level + 1) next ++ (layoutItems level false more ++ ']' :: rest))) := by
        simp [layoutItems]
      have wide : (layout (level + 1) next).length + (layoutItems level false more).length + 1 <
          (layoutItems level false (next :: more)).length := by
        simp only [layoutItems, newline, List.length_append, List.length_cons, Bool.false_eq_true, if_false]
        omega
      obtain ⟨fuel, rfl⟩ : ∃ less, fuel = less + 1 := ⟨fuel - 1, by omega⟩
      have short : (layout (level + 1) item).length < fuel + 1 := by omega
      have read := (each item List.mem_cons_self).of_lt short
        (endsNumber_layoutItems level (next :: more) (']' :: rest))
      have later := ih (fun v member => each v (List.mem_cons_of_mem _ member)) (by omega : _ < fuel)
        (padding_newline (level + 1))
      rw [items, value_append blank, read, goesOn]
      simp [skipSpace, later]

theorem fields_quote {text : Text} {v : Value} (read : value fuel text = some (v, rest)) {padding : Text}
    (blank : Padding padding) (key : Text) :
    fields (fuel + 1) (padding ++ (quote key ++ (": " ++ text))) =
      match skipSpace rest with
      | '}' :: rest => some ([(some key, v)], rest)
      | ',' :: rest => (fields fuel rest).map fun (later, rest) => ((some key, v) :: later, rest)
      | _ => none := by
  obtain ⟨later, units, assembled⟩ := units_flatMap_escape key (": " ++ text)
  have colon : skipSpace (": " ++ text) = ':' :: (" " ++ text) := by simp [skipSpace]
  have spaced : value fuel (" " ++ text) = some (v, rest) := by
    rw [value_append padding_blank, read]
  rw [fields_append blank, fields, skipSpace_of_opens (opens_quote key _), quote_append]
  simp only [units, colon, spaced, assembled, Option.bind_eq_bind, Option.bind_some]
  generalize skipSpace rest = tail
  split
  · rfl
  · exact Option.map_eq_bind.symm
  · simp

theorem fields_layoutFields (level : Nat) {key : Text} {v : Value} {more : List (Text × Value)}
    (each : ∀ field ∈ (key, v) :: more, ReadBack field.2)
    (enough : (layout (level + 1) v).length + (layoutFields level false more).length < fuel)
    {padding : Text} (blank : Padding padding) (rest : Text) :
    fields (fuel + 1) (padding ++ (quote key ++ (": " ++ (layout (level + 1) v ++
      (layoutFields level false more ++ '}' :: rest))))) =
      some (((key, v) :: more).map (fun field => (some field.1, field.2)), rest) := by
  induction more generalizing key v fuel padding with
  | nil =>
      have closed : skipSpace (layoutFields level false [] ++ '}' :: rest) = '}' :: rest :=
        skipSpace_append (padding_newline level) _
      have short : (layout (level + 1) v).length < fuel := by omega
      have read := ReadBack.of_lt (each (key, v) List.mem_cons_self) short
        (endsNumber_layoutFields level [] ('}' :: rest))
      rw [fields_quote read blank, closed]
      rfl
  | cons next more ih =>
      obtain ⟨nextKey, nextValue⟩ := next
      have goesOn : layoutFields level false ((nextKey, nextValue) :: more) ++ '}' :: rest =
          ',' :: (newline (level + 1) ++ (quote nextKey ++ (": " ++
            (layout (level + 1) nextValue ++ (layoutFields level false more ++ '}' :: rest))))) := by
        simp [layoutFields]
      have wide : (layout (level + 1) nextValue).length + (layoutFields level false more).length + 1 <
          (layoutFields level false ((nextKey, nextValue) :: more)).length := by
        simp only [layoutFields, newline, List.length_append, List.length_cons, Bool.false_eq_true, if_false]
        omega
      obtain ⟨fuel, rfl⟩ : ∃ less, fuel = less + 1 := ⟨fuel - 1, by omega⟩
      have short : (layout (level + 1) v).length < fuel + 1 := by omega
      have read := ReadBack.of_lt (each (key, v) List.mem_cons_self) short
        (endsNumber_layoutFields level ((nextKey, nextValue) :: more) ('}' :: rest))
      have later := ih (fun field member => each field (List.mem_cons_of_mem _ member)) (by omega : _ < fuel)
        (padding_newline (level + 1))
      rw [fields_quote read blank, goesOn]
      change (fields (fuel + 1) _).map _ = _
      rw [later]
      rfl

theorem mapM_some_key (fields : List (Text × Value)) :
    (fields.map fun field => (some field.1, field.2)).mapM (fun (key, value) => key.map (·, value)) =
      some fields := by
  induction fields with
  | nil => rfl
  | cons field fields ih => simp [List.mapM_cons, ih]

theorem readBack_list {items : List Value} (plain : ∀ item ∈ items, item.Plain)
    (each : ∀ item ∈ items, ReadBack item) : ReadBack (.list items) := by
  intro level fuel rest enough _
  cases items with
  | nil => simp [layout, layoutItems, value, skipSpace]
  | cons item more =>
      have wide : (layout (level + 1) item).length + (layoutItems level false more).length + 1 < fuel := by
        simp only [layout, layoutItems, newline, List.length_append, List.length_cons] at enough
        omega
      obtain ⟨fuel, rfl⟩ : ∃ less, fuel = less + 1 := ⟨fuel - 1, by omega⟩
      have opens := opens_layout (plain item List.mem_cons_self) (level + 1)
        (layoutItems level false more ++ ']' :: rest)
      have written : layout level (.list (item :: more)) ++ rest = '[' :: (newline (level + 1) ++
          (layout (level + 1) item ++ (layoutItems level false more ++ ']' :: rest))) := by
        simp [layout, layoutItems]
      have read := items_layoutItems level each (by omega : _ < fuel) padding_nil rest
      rw [List.nil_append] at read
      rw [value, written, skipSpace_of_opens (by simp [Opens])]
      simp only [skipSpace_append (padding_newline (level + 1)), skipSpace_of_opens opens]
      -- An item opens with no bracket that would end the list.
      split
      · next closed => exact absurd rfl (opens ']' (closed ▸ rfl)).2.2.2.2.1
      · rw [read]
        rfl

theorem readBack_record {fields : List (Text × Value)} (each : ∀ field ∈ fields, ReadBack field.2) :
    ReadBack (.record fields) := by
  intro level fuel rest enough _
  cases fields with
  | nil => simp [layout, layoutFields, value, skipSpace]
  | cons field more =>
      obtain ⟨key, v⟩ := field
      have wide : (layout (level + 1) v).length + (layoutFields level false more).length + 1 < fuel := by
        simp only [layout, layoutFields, newline, List.length_append, List.length_cons] at enough
        omega
      obtain ⟨fuel, rfl⟩ : ∃ less, fuel = less + 1 := ⟨fuel - 1, by omega⟩
      have opens := opens_quote key (": " ++ (layout (level + 1) v ++
        (layoutFields level false more ++ '}' :: rest)))
      have written : layout level (.record ((key, v) :: more)) ++ rest = '{' :: (newline (level + 1) ++
          (quote key ++ (": " ++ (layout (level + 1) v ++ (layoutFields level false more ++ '}' :: rest))))) := by
        simp [layout, layoutFields]
      have read := fields_layoutFields level each (by omega : _ < fuel) padding_nil rest
      rw [List.nil_append] at read
      rw [value, written, skipSpace_of_opens (by simp [Opens])]
      simp only [skipSpace_append (padding_newline (level + 1)), skipSpace_of_opens opens]
      split
      · next closed => exact absurd rfl (opens '}' (closed ▸ rfl)).2.2.2.2.2
      · rw [read]
        simp only [Option.bind_eq_bind, Option.bind_some, mapM_some_key]
        rfl

theorem readBack_of_plain {v : Value} (plain : v.Plain) : ReadBack v := by
  induction plain with
  | null => exact fun _ _ _ _ _ => rfl
  | bool flag => cases flag <;> exact fun _ _ _ _ _ => rfl
  | int n => exact fun _ fuel _ _ ends => value_integer n fuel ends
  | text text => exact fun _ fuel rest _ _ => value_quote text fuel rest
  | list plain each => exact readBack_list plain each
  | record _ each => exact readBack_record each

theorem read_print {v : Value} (plain : v.Plain) : read (print v) = some v := by
  have back : value (2 * (print v).length + 2) (print v ++ []) = some (v, []) :=
    (readBack_of_plain plain).of_lt (by rw [print]; omega) endsNumber_nil
  rw [List.append_nil] at back
  rw [read, back]
  rfl

end Json
end ScriptSplit
