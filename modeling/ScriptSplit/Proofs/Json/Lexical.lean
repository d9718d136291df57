import ScriptSplit.Json
import ScriptSplit.Proofs.Text.Pieces

namespace ScriptSplit.Json

def Padding (text : Text) : Prop := ∀ c ∈ text, c = ' ' ∨ c = '\n'

theorem padding_nil : Padding [] := by simp [Padding]

theorem padding_blank : Padding " " := by simp [Padding]

theorem padding_newline (level : Nat) : Padding (newline level) := by
  intro c member
  rcases List.mem_cons.mp member with rfl | blank
  · exact .inr rfl
  · exact .inl (List.eq_of_mem_replicate blank)

theorem skipSpace_append {padding : Text} (blank : Padding padding) (text : Text) :
    skipSpace (padding ++ text) = skipSpace text := by
  refine List.dropWhile_append_of_pos fun c member => ?_
  rcases blank c member with rfl | rfl <;> rfl

section Strings
variable {text rest : Text} {later : List CodeUnit}

theorem hexNumber?_hexNumeral : ∀ n < 0x20, Text.hexNumber? (Text.hexNumeral Text.smallHex 4 n) = some n := by
  decide

theorem assemble_code {code : Nat} (below : code < 0xD800) (later : List CodeUnit) :
    assemble (.code code :: later) = (assemble later).map (Char.ofNat code :: ·) := by
  have high : isHigh code = false := by simp [isHigh]; omega
  have low : isLow code = false := by simp [isLow]; omega
  cases later with
  | nil => simp [assemble, high, low]
  | cons unit later => cases unit <;> simp [assemble, high, low]

theorem units_named {letter c : Char} (named : escaped? letter = some c) (read : units text = some (later, rest)) :
    units ('\\' :: letter :: text) = some (.char c :: later, rest) := by
  have other : letter ≠ 'u' := by
    rintro rfl
    cases named
  rw [units]
  · simp [named, read]
  · exact fun _ _ _ _ _ same _ => other same

theorem units_hex {code : Nat} (control : code < 0x20) (read : units text = some (later, rest)) :
    units ("\\u" ++ Text.hexNumeral Text.smallHex 4 code ++ text) = some (.code code :: later, rest) := by
  change units ('\\' :: 'u' :: _ :: _ :: _ :: _ :: text) = _
  rw [units, show Text.hexNumber? [_, _, _, _] = some code from hexNumber?_hexNumeral code control, read]
  rfl

theorem units_plain {c : Char} (quotation : c ≠ '"') (backslash : c ≠ '\\') (visible : ¬ c.toNat < 0x20)
    (read : units text = some (later, rest)) : units (c :: text) = some (.char c :: later, rest) := by
  rw [units] <;> simp_all

theorem exists_unit_escape (c : Char) :
    ∃ unit, (∀ text later rest, units text = some (later, rest) →
        units (escape c ++ text) = some (unit :: later, rest)) ∧
      ∀ later, assemble (unit :: later) = (assemble later).map (c :: ·) := by
  unfold escape
  split
  case h_8 quotation backslash _ _ _ _ _ =>
    split
    · next control =>
        refine ⟨.code c.toNat, fun _ _ _ => units_hex control, fun later => ?_⟩
        rw [assemble_code (by omega), Char.ofNat_toNat]
    · next visible => exact ⟨.char c, fun _ _ _ => units_plain quotation backslash visible, fun _ => rfl⟩
  -- What is left are the seven characters with a letter of their own.
  all_goals exact ⟨.char _, fun _ _ _ => units_named rfl, fun _ => rfl⟩

theorem units_flatMap_escape (text rest : Text) :
    ∃ later, units (text.flatMap escape ++ '"' :: rest) = some (later, rest) ∧ assemble later = some text := by
  induction text with
  | nil => exact ⟨[], rfl, rfl⟩
  | cons c text ih =>
      obtain ⟨later, read, assembled⟩ := ih
      obtain ⟨unit, reads, assembles⟩ := exists_unit_escape c
      refine ⟨unit :: later, ?_, ?_⟩
      · rw [List.flatMap_cons, List.append_assoc]
        exact reads _ _ _ read
      · rw [assembles, assembled]
        rfl

theorem quote_append (text rest : Text) : quote text ++ rest = '"' :: (text.flatMap escape ++ '"' :: rest) := by
  simp [quote]

end Strings

section Numbers
variable {rest : Text}

def EndsNumber (rest : Text) : Prop := ∀ c ∈ rest.head?, c.isDigit = false ∧ c ≠ '.' ∧ c ≠ 'e' ∧ c ≠ 'E'

theorem endsNumber_nil : EndsNumber [] := by simp [EndsNumber]

theorem endsNumber_cons {c : Char} (mark : c = ',' ∨ c = '\n') (rest : Text) : EndsNumber (c :: rest) := by
  rintro _ ⟨⟩
  rcases mark with rfl | rfl <;> decide

theorem digits?_numeral (n : Nat) (ends : EndsNumber rest) :
    digits? (Text.numeral n ++ rest) = some (Text.numeral n, rest) := by
  have first : rest.takeWhile Char.isDigit = [] ∧ rest.dropWhile Char.isDigit = rest := by
    cases rest with
    | nil => exact ⟨rfl, rfl⟩
    | cons c rest => simp [(ends c rfl).1]
  have digits : ∀ c ∈ Text.numeral n, c.isDigit = true := fun _ => Text.isDigit_of_mem_numeral
  rw [digits?, List.takeWhile_append_of_pos digits, List.dropWhile_append_of_pos digits, first.1, first.2,
    List.append_nil]
  split
  · next empty => exact absurd empty (Text.numeral_ne_nil n)
  · rfl

theorem whole?_numeral (n : Nat) (ends : EndsNumber rest) :
    whole? (Text.numeral n ++ rest) = some (Text.numeral n, rest) := by
  have single : ¬ ((Text.numeral n).head? = some '0' ∧ 1 < (Text.numeral n).length) := by
    rintro ⟨zero, long⟩
    rw [Text.length_numeral_of_head? zero] at long
    exact absurd long (by decide)
  rw [whole?, digits?_numeral n ends]
  simp [single]

theorem fraction_of_ends (ends : EndsNumber rest) : fraction rest = some ([], rest) := by
  unfold fraction
  split
  · exact absurd rfl (ends '.' rfl).2.1
  · rfl

theorem exponent_of_ends (ends : EndsNumber rest) : exponent rest = some ([], rest) := by
  cases rest with
  | nil => rfl
  | cons c rest =>
      obtain ⟨-, -, small, capital⟩ := ends c rfl
      simp [exponent, small, capital]

theorem unsigned_numeral {negative : Bool} {n : Nat} (signed : negative = true → n ≠ 0) (ends : EndsNumber rest) :
    unsigned negative (Text.numeral n ++ rest) = some (.int (if negative then -(n : Int) else n), rest) := by
  rw [unsigned, whole?_numeral n ends]
  simpa [fraction_of_ends ends, exponent_of_ends ends, Text.number_numeral] using signed

theorem exists_cons_integer (n : Int) : ∃ c text, Text.integer n = c :: text ∧ (c = '-' ∨ c.isDigit = true) := by
  cases n with
  | negSucc n => exact ⟨'-', _, rfl, .inl rfl⟩
  | ofNat n =>
      obtain ⟨c, text, written⟩ := List.exists_cons_of_ne_nil (Text.numeral_ne_nil n)
      exact ⟨c, text, written, .inr (Text.isDigit_of_mem_numeral (written ▸ List.mem_cons_self))⟩

theorem number_integer (n : Int) (ends : EndsNumber rest) :
    number (Text.integer n ++ rest) = some (.int n, rest) := by
  cases n with
  | negSucc n =>
      change unsigned true (Text.numeral (n + 1) ++ rest) = _
      rw [unsigned_numeral (fun _ => by omega) ends]
      rfl
  | ofNat n =>
      change number (Text.numeral n ++ rest) = _
      unfold number
      split
      · next minus =>
          obtain ⟨c, text, written⟩ := List.exists_cons_of_ne_nil (Text.numeral_ne_nil n)
          rw [written] at minus
          obtain ⟨rfl, -⟩ := List.cons.inj minus
          exact absurd (written ▸ List.mem_cons_self) (Text.not_mem_numeral rfl n)
      · rw [unsigned_numeral (fun negative => by cases negative) ends]
        rfl

end Numbers

end ScriptSplit.Json
