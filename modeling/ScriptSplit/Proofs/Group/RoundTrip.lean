import ScriptSplit.Assignment
import ScriptSplit.Proofs.Assignment.Partition
import ScriptSplit.Proofs.Scanner.Segmented
import ScriptSplit.Proofs.Text.Lines

namespace ScriptSplit

/-! ## Rows of elements -/

namespace Element

def content (element : Element) : Kind × Text × List Text := (element.kind, element.name, element.lines)

def stacked (blanks : Nat) : Nat → List Element → List Element
  | _, [] => []
  | first, element :: rest =>
      { element with startLine := first } :: stacked blanks (first + element.lines.length + blanks) rest

def spaced (blanks : Nat) (elements : List Element) : List Text :=
  elements.flatMap fun element => element.lines ++ List.replicate blanks []

theorem spaced_congr {elements others : List Element} (same : elements.map content = others.map content)
    (blanks : Nat) : spaced blanks elements = spaced blanks others := by
  have said (elements : List Element) : spaced blanks elements =
      (elements.map content).flatMap fun said => said.2.2 ++ List.replicate blanks [] := by
    rw [List.flatMap_map]
    rfl
  rw [said, same, said]

@[simp] theorem content_stacked (blanks first : Nat) (elements : List Element) :
    (stacked blanks first elements).map content = elements.map content := by
  induction elements generalizing first with
  | nil => rfl
  | cons element rest ih => rw [stacked, List.map_cons, List.map_cons, ih, content, content]

end Element

namespace Scanner

theorem skips_nil {scanner : Scanner} (outside : scanner.inComment = false) : scanner.skips [] = false :=
  skips_eq_false_iff.mpr ⟨rfl, outside⟩

theorem IsNeutral.feed_nil {scanner : Scanner} (h : scanner.IsNeutral) :
    scanner.feed [] = { scanner with lineNumber := scanner.lineNumber + 1 } := by
  have code := skips_nil h.inComment
  have step := step_feed scanner []
  generalize scanner.feed [] = after at step ⊢
  cases step with
  | comment skipped => cases code.symm.trans skipped
  | within code' isOpen stays => cases h.current.symm.trans isOpen
  | closing code' isOpen level deep => cases h.current.symm.trans isOpen
  | opening code' free level reads movable => cases reads
  | single code' free level reads shared => cases reads
  | idle code' free silent => simp [balance]

theorem IsNeutral.feedAll_blanks {scanner : Scanner} (h : scanner.IsNeutral) (blanks : Nat) :
    scanner.feedAll (List.replicate blanks []) = { scanner with lineNumber := scanner.lineNumber + blanks } := by
  induction blanks generalizing scanner with
  | zero => rfl
  | succ blanks ih =>
      have step : scanner.feedAll (List.replicate (blanks + 1) []) =
          (scanner.feed []).feedAll (List.replicate blanks []) := rfl
      have next : IsNeutral { scanner with lineNumber := scanner.lineNumber + 1 } :=
        ⟨h.depth, h.inComment, h.current⟩
      rw [step, h.feed_nil, ih next, Nat.add_assoc, Nat.add_comm 1]

theorem IsNeutral.feedAll_spaced {scanner : Scanner} (h : scanner.IsNeutral) (blanks : Nat)
    {elements : List Element} (alone : ∀ element ∈ elements, element.StandsAlone) :
    (scanner.feedAll (Element.spaced blanks elements)).IsNeutral ∧
    (scanner.feedAll (Element.spaced blanks elements)).elements =
      scanner.elements ++ Element.stacked blanks (scanner.lineNumber + 1) elements := by
  induction elements generalizing scanner with
  | nil => exact ⟨h, (List.append_nil _).symm⟩
  | cons element rest ih =>
      obtain ⟨first, later⟩ := List.forall_mem_cons.mp alone
      let next : Scanner :=
        { scanner with
          elements := scanner.elements ++ [{ element with startLine := scanner.lineNumber + 1 }]
          lineNumber := scanner.lineNumber + element.lines.length + blanks }
      have reached : scanner.feedAll (element.lines ++ List.replicate blanks []) = next := by
        have closed : (scanner.feedAll element.lines).IsNeutral := by
          rw [h.feedAll_of_standsAlone first]
          exact ⟨h.depth, h.inComment, h.current⟩
        rw [feedAll_append, closed.feedAll_blanks, h.feedAll_of_standsAlone first]
      have onward : scanner.feedAll (Element.spaced blanks (element :: rest)) =
          next.feedAll (Element.spaced blanks rest) := by
        rw [Element.spaced, List.flatMap_cons, feedAll_append, reached, Element.spaced]
      have atNext : next.IsNeutral := ⟨h.depth, h.inComment, h.current⟩
      obtain ⟨neutral, found⟩ := ih atNext later
      rw [onward]
      refine ⟨neutral, ?_⟩
      have place : next.lineNumber + 1 = scanner.lineNumber + 1 + element.lines.length + blanks := by
        change scanner.lineNumber + element.lines.length + blanks + 1 = _
        omega
      rw [found, place, Element.stacked, List.append_assoc, List.singleton_append]

theorem finish_feed_nil {scanner : Scanner} (free : (scanner.feed []).current = none) :
    (scanner.feed []).finish = scanner.finish := by
  have step := step_feed scanner []
  generalize scanner.feed [] = after at step free ⊢
  cases step with
  | comment skipped =>
      have before : scanner.current = none := Option.map_eq_none_iff.mp free
      simp [finish, before]
  | within code isOpen stays => cases free
  | closing code isOpen level deep =>
      have even : balance [] = 0 := rfl
      omega
  | opening code free' level reads movable => cases free
  | single code free' level reads shared => cases reads
  | idle code free' silent => rfl

theorem standsAlone_of_mem_elements {lines : List Text} {element : Element}
    (member : element ∈ (feedAll {} lines).elements)
    (paired : element.isMovable = false → ∀ line ∈ element.lines, line.count '{' = line.count '}') :
    element.StandsAlone := by
  refine (reproducible_feedAll lines).finished element member fun shared line inside => ?_
  rw [balance, paired shared line inside, Int.sub_self]

theorem mem_elements_of_shared {lines : List Text} {element : Element}
    (member : element ∈ (feedAll {} lines).finish) (shared : element.isMovable = false) :
    element ∈ (feedAll {} lines).elements := by
  rcases List.mem_append.mp member with finished | isOpen
  · exact finished
  · cases shared.symm.trans (isMovable_of_open (Option.mem_toList.mp isOpen))

end Scanner

/-! ## The file of a group -/

namespace Group

def imports (group : Group) : List Element := group.elements.filter Element.isImport

def others (group : Group) : List Element := group.elements.filter fun element => !element.isImport

def gap (group : Group) : Nat := if group.imports.isEmpty then 0 else 1

def written (group : Group) : List Element :=
  Element.stacked 0 1 group.imports ++
    Element.stacked 1 (1 + (group.imports.flatMap Element.lines).length + group.gap) group.others

variable {group : Group} {text : Text}

theorem fileLines_eq (group : Group) : group.fileLines =
    Element.spaced 0 group.imports ++ List.replicate group.gap [] ++ Element.spaced 1 group.others := by
  have header : (if group.imports.isEmpty then [] else [[]]) = List.replicate group.gap ([] : Text) := by
    unfold gap
    split <;> rfl
  have unspaced : group.imports.flatMap Element.lines = Element.spaced 0 group.imports := by
    simp [Element.spaced]
  rw [← header, ← unspaced]
  rfl

theorem mem_imports_or_others {element : Element} (member : element ∈ group.elements) :
    element ∈ group.imports ∨ element ∈ group.others := by
  cases kind : element.isImport with
  | true => exact Or.inl (List.mem_filter.mpr ⟨member, kind⟩)
  | false => exact Or.inr (List.mem_filter.mpr ⟨member, by rw [kind]; rfl⟩)

theorem exists_fileLines_eq_concat (nonempty : group.elements ≠ []) :
    ∃ body, group.fileLines = body ++ [[]] := by
  rw [fileLines_eq]
  rcases List.eq_nil_or_concat group.others with noOthers | ⟨init, last, ends⟩
  · obtain ⟨element, member⟩ := List.exists_mem_of_ne_nil _ nonempty
    have isThere : element ∈ group.imports :=
      (mem_imports_or_others member).resolve_right (by rw [noOthers]; exact List.not_mem_nil)
    have gap : group.gap = 1 := by
      rw [Group.gap, if_neg]
      simpa using List.ne_nil_of_mem isThere
    rw [noOthers, gap]
    exact ⟨Element.spaced 0 group.imports, List.append_nil _⟩
  · let before := Element.spaced 0 group.imports ++ List.replicate group.gap [] ++ Element.spaced 1 init
    refine ⟨before ++ last.lines, ?_⟩
    simp [before, ends, Element.spaced]

theorem text?_eq_some_iff :
    group.text? = some text ↔ group.elements ≠ [] ∧ Text.unlines group.fileLines = text := by
  unfold text?
  split <;> simp_all

theorem text?_eq_none_iff : group.text? = none ↔ group.elements = [] := by
  simp [text?]

theorem mem_fileLines {line : Text} (member : line ∈ group.fileLines) :
    line = [] ∨ ∃ element ∈ group.elements, line ∈ element.lines := by
  simp only [fileLines_eq, Element.spaced, List.mem_append, List.mem_flatMap] at member
  rcases member with (⟨element, isImport, own | blank⟩ | blank) | ⟨element, isOther, own | blank⟩
  · exact Or.inr ⟨element, (List.mem_filter.mp isImport).1, own⟩
  · exact Or.inl (List.eq_of_mem_replicate blank)
  · exact Or.inl (List.eq_of_mem_replicate blank)
  · exact Or.inr ⟨element, (List.mem_filter.mp isOther).1, own⟩
  · exact Or.inl (List.eq_of_mem_replicate blank)

theorem not_mem_of_mem_fileLines (clean : ∀ element ∈ group.elements, ∀ line ∈ element.lines, '\n' ∉ line)
    {line : Text} (member : line ∈ group.fileLines) : '\n' ∉ line := by
  rcases mem_fileLines member with rfl | ⟨element, inGroup, own⟩
  · exact List.not_mem_nil
  · exact clean element inGroup line own

theorem fileLines_eq_lines_concat (clean : ∀ element ∈ group.elements, ∀ line ∈ element.lines, '\n' ∉ line)
    (emitted : group.text? = some text) : group.fileLines = text.lines ++ [[]] := by
  obtain ⟨nonempty, rfl⟩ := text?_eq_some_iff.mp emitted
  obtain ⟨body, whole⟩ := exists_fileLines_eq_concat nonempty
  have unbroken : ∀ line ∈ body, '\n' ∉ line := fun line member =>
    not_mem_of_mem_fileLines clean (whole ▸ List.mem_append_left _ member)
  rw [whole, Text.unlines_concat_nil, Text.lines_flatMap_line unbroken]

theorem feedAll_fileLines (alone : ∀ element ∈ group.elements, element.StandsAlone) :
    (Scanner.feedAll {} group.fileLines).IsNeutral ∧
      (Scanner.feedAll {} group.fileLines).elements = group.written := by
  let header := (Scanner.feedAll {} (Element.spaced 0 group.imports)).feedAll (List.replicate group.gap [])
  obtain ⟨atImports, imports⟩ := Scanner.isNeutral_fresh.feedAll_spaced 0
    fun element member => alone element (List.mem_filter.mp member).1
  have blanks : header = { Scanner.feedAll {} (Element.spaced 0 group.imports) with
      lineNumber := (Scanner.feedAll {} (Element.spaced 0 group.imports)).lineNumber + group.gap } :=
    atImports.feedAll_blanks group.gap
  have neutral : header.IsNeutral := by
    rw [blanks]
    exact ⟨atImports.depth, atImports.inComment, atImports.current⟩
  obtain ⟨atEnd, found⟩ := neutral.feedAll_spaced 1
    fun element member => alone element (List.mem_filter.mp member).1
  have row : header.elements = Element.stacked 0 1 group.imports := by
    rw [blanks]
    exact imports
  have place : header.lineNumber + 1 = 1 + (group.imports.flatMap Element.lines).length + group.gap := by
    simp [header, Element.spaced]
    omega
  rw [row, place] at found
  rw [fileLines_eq, Scanner.feedAll_append, Scanner.feedAll_append]
  exact ⟨atEnd, found⟩

theorem scan_eq_written (alone : ∀ element ∈ group.elements, element.StandsAlone)
    (clean : ∀ element ∈ group.elements, ∀ line ∈ element.lines, '\n' ∉ line)
    (emitted : group.text? = some text) : scan text = group.written := by
  obtain ⟨neutral, found⟩ := feedAll_fileLines alone
  rw [fileLines_eq_lines_concat clean emitted, Scanner.feedAll_concat] at neutral found
  calc scan text
    _ = ((Scanner.feedAll {} text.lines).feed []).finish := (Scanner.finish_feed_nil neutral.current).symm
    _ = ((Scanner.feedAll {} text.lines).feed []).elements := Scanner.finish_of_free neutral.current
    _ = group.written := found

/-! ## Writing it again -/

theorem content_written (group : Group) :
    group.written.map Element.content = (group.imports ++ group.others).map Element.content := by
  rw [written, List.map_append, List.map_append, Element.content_stacked, Element.content_stacked]

theorem content_imports (group : Group) : group.imports.map Element.content =
    (group.elements.map Element.content).filter fun said => said.1 == .importDecl := by
  rw [imports, List.filter_map]
  rfl

theorem content_others (group : Group) : group.others.map Element.content =
    (group.elements.map Element.content).filter fun said => !(said.1 == .importDecl) := by
  rw [others, List.filter_map]
  rfl

theorem fileLines_congr {other : Group}
    (imports : group.imports.map Element.content = other.imports.map Element.content)
    (others : group.others.map Element.content = other.others.map Element.content) :
    group.fileLines = other.fileLines := by
  have gap : group.gap = other.gap := by
    have empty := congrArg List.isEmpty imports
    rw [List.isEmpty_map, List.isEmpty_map] at empty
    rw [Group.gap, Group.gap, empty]
  rw [fileLines_eq, fileLines_eq, Element.spaced_congr imports, Element.spaced_congr others, gap]

theorem text?_written (emitted : group.text? = some text) (label : Text) (isDefault : Bool) :
    text? ⟨label, isDefault, group.written⟩ = some text := by
  obtain ⟨nonempty, rfl⟩ := text?_eq_some_iff.mp emitted
  refine text?_eq_some_iff.mpr ⟨fun empty => ?_, congrArg Text.unlines (fileLines_congr ?_ ?_)⟩
  · obtain ⟨element, member⟩ := List.exists_mem_of_ne_nil _ nonempty
    have noElements : group.imports ++ group.others = [] := by
      have contents := content_written group
      rw [show group.written = [] from empty] at contents
      exact List.map_eq_nil_iff.mp contents.symm
    have inRow := List.mem_append.mpr (mem_imports_or_others member)
    rw [noElements] at inRow
    exact List.not_mem_nil inRow
  · have row := content_imports ⟨label, isDefault, group.imports ++ group.others⟩
    rw [content_imports, content_written, ← row]
    simp [imports, others, List.filter_filter]
  · have row := content_others ⟨label, isDefault, group.imports ++ group.others⟩
    rw [content_others, content_written, ← row]
    simp [imports, others, List.filter_filter]

theorem shared_append_movable_written (last : group.elements = group.shared ++ group.movable) :
    Element.shared group.written ++ Element.movable group.written = group.written := by
  have ordered : group.elements.Pairwise fun earlier later =>
      earlier.isMovable = true → later.isMovable = true := by
    rw [last]
    exact Lists.pairwise_filter_not_append_filter Element.isMovable group.elements
  have row : (group.imports ++ group.others).Pairwise fun earlier later =>
      earlier.isMovable = true → later.isMovable = true := by
    refine List.pairwise_append.mpr ⟨ordered.filter _, ordered.filter _, fun earlier isImport _ _ movable => ?_⟩
    have kind : earlier.kind = .importDecl := beq_iff_eq.mp (List.mem_filter.mp isImport).2
    rw [Element.isMovable, kind] at movable
    cases movable
  -- Only the kinds matter, and those are the same where the elements were written.
  have said : ((group.imports ++ group.others).map Element.content).Pairwise fun earlier later =>
      earlier.1.isMovable = true → later.1.isMovable = true := List.pairwise_map.mpr row
  rw [← content_written] at said
  exact Lists.filter_not_append_filter (List.pairwise_map.mp said)

end Group

/-! ## Round trip -/

/-- A scan of the text of a group, all of whose functions and classes were closed and whose other lines have
their brackets in pairs, finds the elements of the group, imports first, where they were written; grouping
and writing them again gives the same text. -/
theorem scan_text_of_assign {source default text : Text} {rest : List Text} {selections : Selections}
    {group : Group} (member : group ∈ (assign (scan source) (default :: rest) selections).groups)
    (closed : ∀ element ∈ group.elements, element.isMovable = true →
      element ∈ (Scanner.feedAll {} source.lines).elements)
    (paired : ∀ element ∈ group.elements, element.isMovable = false →
      ∀ line ∈ element.lines, line.count '{' = line.count '}')
    (emitted : group.text? = some text) :
    (scan text).map Element.content = (group.imports ++ group.others).map Element.content ∧
    scan text = group.written ∧ (∀ element ∈ scan text, element.StandsIn text.lines) ∧
    (∀ label isDefault, Group.text? ⟨label, isDefault, scan text⟩ = some text) ∧
    ∀ label selections, (assign (scan text) [label] selections).groups = [⟨label, true, scan text⟩] := by
  have found {element : Element} (inGroup : element ∈ group.elements) : element ∈ scan source :=
    Assignment.mem_of_mem_group (scan source) default rest selections member inGroup
  have alone : ∀ element ∈ group.elements, element.StandsAlone := by
    intro element inGroup
    have finished : element ∈ (Scanner.feedAll {} source.lines).elements := by
      cases movable : element.isMovable with
      | true => exact closed element inGroup movable
      | false => exact Scanner.mem_elements_of_shared (found inGroup) movable
    exact Scanner.standsAlone_of_mem_elements finished (paired element inGroup)
  have clean : ∀ element ∈ group.elements, ∀ line ∈ element.lines, '\n' ∉ line := by
    intro element inGroup line own
    have stands := (laid_scan source).standing element (found inGroup)
    rw [stands.verbatim] at own
    exact Text.not_mem_of_mem_lines (List.mem_of_mem_drop (List.mem_of_mem_take own))
  have same := Group.scan_eq_written alone clean emitted
  have last := Assignment.elements_eq_shared_append_movable (scan source) default rest selections member
  refine ⟨?_, same, (laid_scan text).standing, ?_, ?_⟩
  · rw [same, Group.content_written]
  · intro label isDefault
    rw [same]
    exact Group.text?_written emitted label isDefault
  · intro label selections
    rw [Assignment.assign_singleton, same, Group.shared_append_movable_written last]

def shuffledScript : Text :=
  "let x = 1;\nfunction f() \x7b\n/* \x7d */\n\x7d\nimport a;\nf();\nfunction g()\n\x7b\n\x7d"

def shuffledGroup : Group :=
  { label := "b", isDefault := false
    elements :=
      [⟨.variableDecl, "x", ["let x = 1;"], 1⟩, ⟨.importDecl, "import a;", ["import a;"], 5⟩,
        ⟨.functionDecl, "g", ["function g()", "\x7b", "\x7d"], 7⟩,
        ⟨.functionDecl, "f", ["function f() \x7b", "/* \x7d */", "\x7d"], 2⟩] }

def shuffledText : Text :=
  "import a;\n\nlet x = 1;\n\nfunction g()\n\x7b\n\x7d\n\nfunction f() \x7b\n/* \x7d */\n\x7d\n"

theorem scan_shuffledText :
    shuffledGroup ∈ (assign (scan shuffledScript) ["a", "b"] [("b", ⟨[2, 1], []⟩)]).groups ∧
    shuffledGroup.text? = some shuffledText ∧ scan shuffledText = shuffledGroup.written := by
  have member : shuffledGroup ∈ (assign (scan shuffledScript) ["a", "b"] [("b", ⟨[2, 1], []⟩)]).groups := by
    decide +kernel
  have emitted : shuffledGroup.text? = some shuffledText := by decide +kernel
  exact ⟨member, emitted, (scan_text_of_assign member (by decide +kernel) (by decide +kernel) emitted).2.1⟩

end ScriptSplit
