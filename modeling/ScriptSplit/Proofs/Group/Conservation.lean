import ScriptSplit.Proofs.Group.RoundTrip

namespace ScriptSplit

theorem not_mem_of_mem_scan {source : Text} {element : Element} (found : element ∈ scan source) {line : Text}
    (own : line ∈ element.lines) : '\n' ∉ line := by
  rw [((laid_scan source).standing element found).verbatim] at own
  exact Text.not_mem_of_mem_lines (List.mem_of_mem_drop (List.mem_of_mem_take own))

theorem Element.count_spaced {line : Text} (inked : line ≠ []) (blanks : Nat) (elements : List Element) :
    (spaced blanks elements).count line = (elements.flatMap lines).count line := by
  induction elements with
  | nil => rfl
  | cons element rest ih =>
      have rows : spaced blanks (element :: rest) =
          element.lines ++ List.replicate blanks [] ++ spaced blanks rest := rfl
      rw [rows, List.flatMap_cons, List.count_append, List.count_append, List.count_append, ih,
        List.count_replicate, if_neg (by simpa using Ne.symm inked), Nat.add_zero]

namespace Group

def textLines (group : Group) : List Text := group.text?.elim [] fun text => text.splitOn '\n'

theorem textLines_eq_fileLines {group : Group}
    (clean : ∀ element ∈ group.elements, ∀ line ∈ element.lines, '\n' ∉ line) :
    group.textLines = group.fileLines := by
  by_cases empty : group.elements = []
  · simp [textLines, text?, fileLines, empty]
  · obtain ⟨body, ends⟩ := exists_fileLines_eq_concat empty
    have written : group.text? = some (Text.unlines group.fileLines) := text?_eq_some_iff.mpr ⟨empty, rfl⟩
    rw [textLines, written]
    exact List.splitOn_intercalate '\n' (fun line member => not_mem_of_mem_fileLines clean member)
      (by simp [ends])

theorem count_fileLines {line : Text} (inked : line ≠ []) (group : Group) :
    group.fileLines.count line = (group.elements.flatMap Element.lines).count line := by
  have halves : (group.imports ++ group.others).Perm group.elements :=
    List.filter_append_perm Element.isImport group.elements
  rw [← (halves.flatMap_right Element.lines).count_eq, fileLines_eq, List.flatMap_append, List.count_append,
    List.count_append, List.count_append, Element.count_spaced inked, Element.count_spaced inked,
    List.count_replicate, if_neg (by simpa using Ne.symm inked), Nat.add_zero]

end Group

namespace Assignment

variable (elements : List Element) (default : Text) (rest : List Text) (selections : Selections)

theorem flatMap_elements_perm :
    ((assign elements (default :: rest) selections).groups.flatMap Group.elements).Perm
      (((default :: rest).eraseDups.flatMap fun _ => Element.shared elements) ++ Element.movable elements) := by
  let groups := (assign elements (default :: rest) selections).groups
  have parts : groups.flatMap Group.elements = groups.flatMap fun group => group.shared ++ group.movable :=
    List.flatMap_congr fun group member =>
      elements_eq_shared_append_movable elements default rest selections member
  have copies : groups.flatMap Group.shared =
      (default :: rest).eraseDups.flatMap fun _ => Element.shared elements := by
    change (groupsOf elements (default :: rest) _).flatMap Group.shared = _
    rw [groupsOf_eq_map, List.flatMap_map]
    exact List.flatMap_congr fun label _ => groupOf_shared elements default _ label
  rw [parts, ← copies]
  exact (List.flatMap_append_perm groups _ _).symm.trans
    ((flatMap_movable_perm elements default rest selections).append_left _)

end Assignment

/-- In the files of a split the lines of functions and classes stand as often as in the source, the lines of
the imports and variables so often for every destination, and all other lines are blank. -/
theorem count_flatMap_textLines (source default : Text) (rest : List Text) (selections : Selections) :
    let elements := scan source
    let groups := (assign elements (default :: rest) selections).groups
    (∀ line, line ≠ [] → (groups.flatMap Group.textLines).count line =
      ((Element.movable elements).flatMap Element.lines).count line +
        (default :: rest).eraseDups.length * ((Element.shared elements).flatMap Element.lines).count line) ∧
    ∀ group ∈ groups, ∀ line ∈ group.textLines, line = [] ∨ ∃ element ∈ group.elements, line ∈ element.lines := by
  intro elements groups
  have lines : ∀ group ∈ groups, group.textLines = group.fileLines := by
    intro group member
    refine Group.textLines_eq_fileLines fun element inGroup line own => ?_
    exact not_mem_of_mem_scan
      (Assignment.mem_of_mem_group elements default rest selections member inGroup) own
  constructor
  · intro line inked
    let labels := (default :: rest).eraseDups
    have permuted := Assignment.flatMap_elements_perm elements default rest selections
    calc (groups.flatMap Group.textLines).count line
      _ = (groups.flatMap fun group => group.elements.flatMap Element.lines).count line := by
          rw [List.flatMap_congr lines, List.count_flatMap, List.count_flatMap]
          exact congrArg List.sum (List.map_congr_left fun group _ => group.count_fileLines inked)
      _ = ((groups.flatMap Group.elements).flatMap Element.lines).count line := by rw [List.flatMap_assoc]
      _ = (((labels.flatMap fun _ => Element.shared elements) ++
            Element.movable elements).flatMap Element.lines).count line :=
          (permuted.flatMap_right Element.lines).count_eq line
      _ = labels.length * ((Element.shared elements).flatMap Element.lines).count line +
            ((Element.movable elements).flatMap Element.lines).count line := by
          rw [List.flatMap_append, List.flatMap_assoc, List.count_append, List.count_flatMap]
          simp [Function.comp_def]
      _ = _ := Nat.add_comm _ _
  · intro group member line inFile
    rw [lines group member] at inFile
    exact Group.mem_fileLines inFile

theorem count_flatMap_textLines_shuffledScript :
    let groups := (assign (scan shuffledScript) ["a", "b"] [("b", ⟨[2, 1], []⟩)]).groups
    let ending : Text := "\x7d"
    let shared : Text := "let x = 1;"
    (ending ≠ [] ∧ (groups.flatMap Group.textLines).count ending = 2) ∧
    (shared ≠ [] ∧ (groups.flatMap Group.textLines).count shared = 2) ∧
    shuffledGroup ∈ groups ∧ shared ∈ shuffledGroup.textLines ∧
      ∃ element ∈ shuffledGroup.elements, shared ∈ element.lines := by
  intro groups ending shared
  obtain ⟨counts, own⟩ := count_flatMap_textLines shuffledScript "a" ["b"] [("b", ⟨[2, 1], []⟩)]
  have member : shuffledGroup ∈ groups := by decide +kernel
  have written : shared ∈ shuffledGroup.textLines := by decide +kernel
  refine ⟨⟨by decide, (counts ending (by decide)).trans ?_⟩, ⟨by decide, (counts shared (by decide)).trans ?_⟩,
    member, written, (own shuffledGroup member shared written).resolve_left (by decide)⟩
  · decide +kernel
  · decide +kernel

end ScriptSplit
