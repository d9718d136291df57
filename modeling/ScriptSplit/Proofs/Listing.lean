import ScriptSplit.Proofs.Assignment.Second
import ScriptSplit.Proofs.Element
import ScriptSplit.Proofs.Selection
import ScriptSplit.Proofs.Text.Lines
import ScriptSplit.Report

namespace ScriptSplit

theorem Text.lines_line_append (text rest : Text) : (text.line ++ rest).lines = text.line.lines ++ rest.lines := by
  induction text with
  | nil => simp [line, lines]
  | cons c text ih =>
      have nonempty : lines (text ++ ['\n']) ≠ [] := by
        cases text with
        | nil => simp [lines]
        | cons d later =>
            rw [List.cons_append, lines]
            split
            · simp
            · split <;> simp
      simp only [line, List.cons_append, List.append_assoc, lines] at ih ⊢
      rw [ih]
      split
      · rfl
      · cases found : lines (text ++ ['\n']) with
        | nil => exact absurd found nonempty
        | cons first after => rfl

section Numbered
variable {α : Type} {items : List α} {write : Nat → α → Text}

theorem lines_numbered (clean : ∀ number, ∀ item ∈ items, '\n' ∉ write number item) :
    (numbered items fun number item => Text.line (write number item)).lines =
      (items.zipIdx 1).map fun (item, number) => write number item := by
  have joined : (numbered items fun number item => Text.line (write number item)) =
      ((items.zipIdx 1).map fun (item, number) => write number item).flatMap Text.line := by
    rw [List.flatMap_map]
    rfl
  rw [joined, Text.lines_flatMap_line]
  intro line member
  obtain ⟨⟨item, number⟩, there, rfl⟩ := List.mem_map.mp member
  exact clean number item (List.fst_mem_of_mem_zipIdx there)

theorem getElem?_map_zipIdx {number : Nat} (low : 1 ≤ number) {item : α} (found : items[number - 1]? = some item) :
    ((items.zipIdx 1).map fun (item, number) => write number item)[number - 1]? = some (write number item) := by
  rw [List.getElem?_map, List.getElem?_zipIdx, found, Nat.add_sub_cancel' low]
  rfl

end Numbered

theorem Kind.not_mem_word (kind : Kind) : '\n' ∉ kind.word := by cases kind <;> decide

theorem not_mem_name_of_mem_scan {source : Text} {element : Element} (found : element ∈ scan source) :
    '\n' ∉ element.name := by
  obtain ⟨line, inSource, part⟩ := exists_line_of_mem_scan found
  exact fun member => Text.not_mem_of_mem_lines inSource (part.subset member)

def Element.briefLine (number : Nat) (element : Element) : Text :=
  Text.numeral number ++ ". " ++ element.kind.word ++ " '" ++ element.name ++ ['\'']

def Element.fullLine (number : Nat) (element : Element) : Text :=
  Text.numeral number ++ ". " ++ element.kind.word ++ ": " ++ element.name ++ " (lines " ++
    Text.numeral element.startLine ++ '-' :: Text.numeral element.endLine ++ [')']

namespace Outline

variable (path source : Text)

theorem mem_scan_of_mem_movable {element : Element} (member : element ∈ (ofSource path source).movable) :
    element ∈ scan source := (List.mem_filter.mp member).1

theorem lines_movableList : (ofSource path source).movableList.lines =
    ((ofSource path source).movable.zipIdx 1).map fun (element, number) => element.briefLine number := by
  refine lines_numbered fun number element member => ?_
  have name := not_mem_name_of_mem_scan (mem_scan_of_mem_movable path source member)
  simp [Text.not_mem_numeral, Kind.not_mem_word, name]

theorem exists_lines_summary : ∃ before, (ofSource path source).summary.lines =
    before ++ ((ofSource path source).movable.zipIdx 1).map fun (element, number) => element.fullLine number := by
  have split (front found listed : Text) :
      (front ++ Text.line found ++ listed).lines = (Text.line (front ++ found)).lines ++ listed.lines := by
    rw [← Text.lines_line_append]
    simp only [Text.line, List.append_assoc]
  refine ⟨_, (split _ _ _).trans (congrArg (_ ++ ·) (lines_numbered fun number element member => ?_))⟩
  have name := not_mem_name_of_mem_scan (mem_scan_of_mem_movable path source member)
  simp [Text.not_mem_numeral, Kind.not_mem_word, name]

theorem drop_summary : ((ofSource path source).summary.lines.drop
      ((ofSource path source).summary.lines.length - (ofSource path source).movable.length)) =
    ((ofSource path source).movable.zipIdx 1).map fun (element, number) => element.fullLine number := by
  obtain ⟨before, same⟩ := exists_lines_summary path source
  rw [same, List.length_append, List.length_map, List.length_zipIdx, Nat.add_sub_cancel, List.drop_left]

end Outline

/-- The lines of both listings carry the numbers of the functions and classes. The second destination gets the
element whose number is its selection, and a number that no element has moves nothing and is reported. -/
theorem listed_numbers (path source : Text) {destinations : List Text} (selections : Selections)
    {default label : Text} {later : List Text} (second : destinations.eraseDups = default :: label :: later)
    (few : (Outline.ofSource path source).movable.length < Selection.maxIndex) :
    let outline := Outline.ofSource path source
    let count := outline.movable.length
    let assignment := assign outline.elements destinations selections
    outline.movableList.lines.length = count ∧
    (∀ number, 1 ≤ number → number ≤ count → ∃ element, outline.movable[number - 1]? = some element ∧
      outline.movableList.lines[number - 1]? = some (element.briefLine number) ∧
      (outline.summary.lines.drop (outline.summary.lines.length - count))[number - 1]? =
        some (element.fullLine number) ∧
      (selections.lookup label = some (Selection.parse (Text.numeral number)) →
        assignment.Heard selections label [element] [])) ∧
    ∀ number, number = 0 ∨ count < number →
      selections.lookup label = some (Selection.parse (Text.numeral number)) →
        assignment.Heard selections label []
          [⟨label, some (min number Selection.maxIndex), .outOfRange count⟩] ∧
        ((∀ other, (selections.lookup other).isSome = true → other = label) →
          ∃ group, assignment.default? = some group ∧ group.movable = outline.movable) := by
  intro outline count assignment
  refine ⟨?_, fun number low high => ?_, fun number outside asked => ?_⟩
  · rw [Outline.lines_movableList, List.length_map, List.length_zipIdx]
  · have found : outline.movable[number - 1]? = some outline.movable[number - 1] := List.getElem?_eq_getElem _
    refine ⟨_, found, ?_, ?_, fun asked => ?_⟩
    · rw [Outline.lines_movableList]
      exact getElem?_map_zipIdx low found
    · rw [Outline.drop_summary]
      exact getElem?_map_zipIdx low found
    · rw [Selection.parse_numeral, Nat.min_eq_left (high.trans few.le)] at asked
      exact Assignment.heard_of_granted second asked low found
  · rw [Selection.parse_numeral] at asked
    -- A number that is cut off at the largest index is still too large.
    have beyond : min number Selection.maxIndex = 0 ∨ count < min number Selection.maxIndex :=
      outside.imp (fun zero => by rw [zero, Nat.zero_min]) (fun large => Nat.lt_min.mpr ⟨large, few⟩)
    exact ⟨Assignment.heard_of_refused second asked beyond, Assignment.default?_of_refused second asked beyond⟩

def listedScript : Text := "let x = 1;\nfunction f() \x7b\n\x7d\nclass C \x7b\n\x7d\n"

theorem listed_numbers_listedScript :
    let outline := Outline.ofSource "s" listedScript
    let labels : List Text := ["a", "a", "b", "c"]
    let claimed : Selections := [("c", ⟨[2, 1], []⟩), ("b", Selection.parse (Text.numeral 2))]
    let beyond : Selections := [("b", Selection.parse (Text.numeral 3))]
    let aClass : Element := ⟨.classDecl, "C", ["class C \x7b", "\x7d"], 4⟩
    labels.eraseDups = ["a", "b", "c"] ∧ outline.movable.length < Selection.maxIndex ∧
    outline.movableList.lines[1]? = some "2. class 'C'".toList ∧
    (assign outline.elements labels claimed).Heard claimed "b" [aClass] [] ∧
    (assign outline.elements labels beyond).Heard beyond "b" [] [⟨"b", some 3, .outOfRange 2⟩] := by
  intro outline labels claimed beyond aClass
  have second : labels.eraseDups = ["a", "b", "c"] := by decide +kernel
  have few : outline.movable.length < Selection.maxIndex := by decide +kernel
  obtain ⟨element, found, listed, -, heard⟩ :=
    (listed_numbers "s" listedScript claimed second few).2.1 2 (by decide) (by decide +kernel)
  have same : outline.movable[2 - 1]? = some aClass := by decide +kernel
  obtain rfl := Option.some.inj (found.symm.trans same)
  have refused := (listed_numbers "s" listedScript beyond second few).2.2 3
    (.inr (by decide +kernel)) (by decide +kernel)
  have two : outline.movable.length = 2 := by decide +kernel
  rw [two] at refused
  exact ⟨second, few, listed.trans (by decide +kernel), heard (by decide +kernel), refused.1⟩

end ScriptSplit
