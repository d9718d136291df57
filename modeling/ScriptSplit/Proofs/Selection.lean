import ScriptSplit.Assignment
import ScriptSplit.Proofs.Text.Pieces

namespace ScriptSplit

namespace Text

def blankCodes : List Nat :=
  List.range' 0x9 5 ++ [0x20, 0x85, 0xA0, 0x1680] ++ List.range' 0x2000 11 ++ [0x2028, 0x2029, 0x202F, 0x205F, 0x3000]

theorem toNat_mem_blankCodes {c : Char} (h : isBlank c = true) : c.toNat ∈ blankCodes := by
  simp only [isBlank, Bool.or_eq_true, Bool.and_eq_true, decide_eq_true_eq, beq_iff_eq] at h
  simp only [blankCodes, List.mem_append, List.mem_range'_1, List.mem_cons, List.not_mem_nil, or_false]
  omega

theorem isDecimal_of_isBlank {c : Char} (h : isBlank c = true) : isDecimal c = false := by
  have apart : ∀ code ∈ blankCodes, digitZeros.any (fun base => base ≤ code && code < base + 10) = false := by
    decide +kernel
  exact apart c.toNat (toNat_mem_blankCodes h)

end Text

namespace Selection

theorem words_trim (raw : Text) : words raw.trim = words raw := by
  obtain ⟨before, after, whole, front, back⟩ := raw.exists_eq_append_stripWhere Text.isBlank
  have ends (c : Char) (blank : Text.isBlank c = true) : (c == ',' || Text.isBlank c) = true := by
    rw [blank, Bool.or_true]
  have same := Text.filter_map_splitOnP_append (fun c member => ends c (front c member))
    (fun c member => ends c (back c member))
    (f := (Text.stripWhere · fun c => c == '[' || c == ']')) rfl raw.trim
  exact same.symm.trans (congrArg words whole.symm)

theorem parse_trim (raw : Text) : parse raw.trim = parse raw := by
  have runs : raw.trim.runs Text.isDecimal = raw.runs Text.isDecimal :=
    Text.runs_stripWhere (fun _ => Text.isDecimal_of_isBlank) raw
  rw [parse, parse, runs, words_trim]

theorem parse_of_trim_eq_nil {raw : Text} (blank : raw.trim = []) : parse raw = {} := by
  rw [← parse_trim, blank]
  rfl

theorem runs_numeral (n : Nat) : (Text.numeral n).runs Text.isDecimal = [Text.numeral n] :=
  Text.runs_of_all (Text.numeral_ne_nil n) fun _ member =>
    Text.isDecimal_of_isDigit (Text.isDigit_of_mem_numeral member)

theorem words_numeral (n : Nat) : words (Text.numeral n) = [Text.numeral n] := by
  have whole : (Text.numeral n).splitOnP (fun c => c == ',' || Text.isBlank c) = [Text.numeral n] :=
    List.splitOnP_eq_singleton fun c member => by
      have digit := Text.isDigit_of_mem_numeral member
      have comma : c ≠ ',' := by
        rintro rfl
        cases digit
      have blank : Text.isBlank c = false := by
        by_contra blank
        have := Text.isDecimal_of_isBlank (Bool.not_eq_false _ ▸ blank)
        rw [Text.isDecimal_of_isDigit digit] at this
        cases this
      rw [blank, Bool.or_false, beq_eq_false_iff_ne.mpr comma]
  have bare : (Text.numeral n).stripWhere (fun c => c == '[' || c == ']') = Text.numeral n :=
    Text.stripWhere_of_forall fun c member => by
      have digit := Text.isDigit_of_mem_numeral member
      rw [Bool.or_eq_false_iff, beq_eq_false_iff_ne, beq_eq_false_iff_ne]
      constructor <;> (rintro rfl; cases digit)
  rw [words, whole, List.map_singleton, bare]
  simp [Text.numeral_ne_nil n]

theorem index_numeral (n : Nat) : index (Text.numeral n) = min n maxIndex := by
  have digits : (Text.numeral n).all Char.isDigit = true :=
    List.all_eq_true.mpr fun c member => Text.isDigit_of_mem_numeral member
  rw [index, if_pos digits, Text.number_numeral]

theorem parse_numeral (n : Nat) : parse (Text.numeral n) = ⟨[min n maxIndex], []⟩ := by
  have digit : (Text.numeral n).any Char.isDigit = true := by
    obtain ⟨c, member⟩ := List.exists_mem_of_ne_nil _ (Text.numeral_ne_nil n)
    exact List.any_eq_true.mpr ⟨c, member, Text.isDigit_of_mem_numeral member⟩
  rw [parse, runs_numeral, words_numeral, List.map_singleton, index_numeral]
  simp [digit]

end Selection

end ScriptSplit

/-! ## Words of a selection -/

namespace ScriptSplit.Selection

theorem isDecimal_of_separates {c : Char} (separates : (c == ',' || Text.isBlank c) = true) :
    Text.isDecimal c = false := by
  rcases Bool.or_eq_true_iff.mp separates with comma | blank
  · rw [eq_of_beq comma]
    decide
  · exact Text.isDecimal_of_isBlank blank

theorem isDecimal_of_bracket {c : Char} (bracket : (c == '[' || c == ']') = true) : Text.isDecimal c = false := by
  rcases Bool.or_eq_true_iff.mp bracket with opens | closes
  · rw [eq_of_beq opens]
    decide
  · rw [eq_of_beq closes]
    decide

theorem runs_eq_flatMap_words (raw : Text) :
    raw.runs Text.isDecimal = (words raw).flatMap fun word => Text.runs word Text.isDecimal := by
  have occupied (pieces : List Text) : (pieces.filter fun piece => !piece.isEmpty).flatMap
      (fun piece => Text.runs piece Text.isDecimal) = pieces.flatMap fun piece => Text.runs piece Text.isDecimal := by
    have nothing : Text.runs [] Text.isDecimal = [] := rfl
    induction pieces with
    | nil => rfl
    | cons piece rest ih => cases piece <;> simp [ih, nothing]
  rw [words, occupied, List.flatMap_map, Text.runs_eq_flatMap_splitOnP fun _ => isDecimal_of_separates]
  simp only [Text.runs_stripWhere fun _ => isDecimal_of_bracket]

theorem indices_eq_flatMap_words (raw : Text) :
    (parse raw).indices = (words raw).flatMap fun word => (parse word).indices := by
  change (raw.runs Text.isDecimal).map index = _
  rw [runs_eq_flatMap_words, List.map_flatMap]
  rfl

theorem isEmpty_indices (word : Text) : (parse word).indices.isEmpty = !word.any Text.isDecimal := by
  change ((word.runs Text.isDecimal).map index).isEmpty = _
  rw [Bool.eq_iff_iff, List.isEmpty_iff, List.map_eq_nil_iff, Text.runs_eq_nil_iff]
  simp

def isForeign (word : Text) : Bool := word.any Text.isDecimal && !word.any Char.isDigit

theorem isEmpty_or_isForeign (word : Text) :
    ((parse word).indices.isEmpty || isForeign word) = !word.any Char.isDigit := by
  rw [isEmpty_indices, isForeign]
  cases numbered : word.any Text.isDecimal with
  | true => simp
  | false =>
      have none : word.any Char.isDigit = false := List.any_eq_false.mpr fun c member digit =>
        List.any_eq_false.mp numbered c member (Text.isDecimal_of_isDigit digit)
      rw [none]
      rfl

theorem words_classified (raw : Text) :
    (parse raw).indices = (words raw).flatMap (fun word => (parse word).indices) ∧
    (parse raw).ignored = (words raw).filter (fun word => (parse word).indices.isEmpty || isForeign word) ∧
    (∀ word ∈ words raw, ((parse word).indices ≠ [] ∨ word ∈ (parse raw).ignored) ∧
      ((parse word).indices ≠ [] ∧ word ∈ (parse raw).ignored ↔ isForeign word = true)) ∧
    ((parse raw).ignored = (words raw).filter (fun word => (parse word).indices.isEmpty) ↔
      ∀ word ∈ words raw, isForeign word = false) := by
  have ignored : (parse raw).ignored =
      (words raw).filter fun word => (parse word).indices.isEmpty || isForeign word :=
    List.filter_congr fun word _ => (isEmpty_or_isForeign word).symm
  -- A word without an index has no decimal digit, so it is no number at all.
  have apart (word : Text) (foreign : isForeign word = true) : (parse word).indices.isEmpty = false := by
    rw [isEmpty_indices, (Bool.and_eq_true_iff.mp foreign).1]
    rfl
  refine ⟨indices_eq_flatMap_words raw, ignored, fun word member => ?_, ?_⟩
  · have known : word ∈ (parse raw).ignored ↔ (parse word).indices = [] ∨ isForeign word = true := by
      rw [ignored, List.mem_filter]
      simp [member]
    rw [known]
    refine ⟨?_, fun ⟨indexed, quiet⟩ => quiet.resolve_left indexed, fun foreign => ⟨?_, .inr foreign⟩⟩
    · exact (em ((parse word).indices = [])).elim (fun none => .inr (.inl none)) .inl
    · exact List.isEmpty_eq_false_iff.mp (apart word foreign)
  · rw [ignored]
    refine ⟨fun same word member => ?_, fun none => List.filter_congr fun word member => ?_⟩
    · by_contra foreign
      rw [Bool.not_eq_false] at foreign
      have kept : word ∈ (words raw).filter fun word => (parse word).indices.isEmpty || isForeign word :=
        List.mem_filter.mpr ⟨member, by rw [foreign, Bool.or_true]⟩
      rw [same] at kept
      have quiet := (List.mem_filter.mp kept).2
      rw [apart word foreign] at quiet
      cases quiet
    · rw [none word member, Bool.or_false]

/-- A digit of another script is an index and is ignored. -/
theorem parse_arabicThree :
    words ['\u0663'] = [['\u0663']] ∧ parse ['\u0663'] = ⟨[maxIndex], [['\u0663']]⟩ ∧
    (parse ['\u0663']).ignored ≠ (words ['\u0663']).filter fun word => (parse word).indices.isEmpty := by
  decide +kernel

end ScriptSplit.Selection
