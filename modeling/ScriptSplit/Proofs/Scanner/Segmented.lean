import ScriptSplit.Proofs.Scanner.Segmentation

namespace ScriptSplit

variable {lines : List Text} {position : Nat}

/-! ## Positions before the last line -/

theorem le_of_lt_length_concat {line : Text} (h : position < (lines ++ [line]).length) : position ≤ lines.length := by
  rw [List.length_append, List.length_singleton] at h
  exact Nat.lt_succ_iff.mp h

theorem isComment_concat_of_lt (before : position < lines.length) (line : Text) :
    isComment (lines ++ [line]) position = isComment lines position := by
  rw [isComment, isComment, List.getElem?_append_left before, List.take_append_of_le_length before.le]

theorem isComment_concat_length (lines : List Text) (line : Text) :
    isComment (lines ++ [line]) lines.length = (Scanner.isMarked line || commentOpen lines) := by
  simp [isComment]

theorem weight_concat_of_lt (before : position < lines.length) (line : Text) :
    weight (lines ++ [line]) position = weight lines position := by
  have same : (lines ++ [line]).getD position [] = lines.getD position [] := by
    rw [List.getD_eq_getElem?_getD, List.getD_eq_getElem?_getD, List.getElem?_append_left before]
  rw [weight, weight, isComment_concat_of_lt before, same]

theorem depthAt_concat_of_le (upTo : position ≤ lines.length) (line : Text) :
    depthAt (lines ++ [line]) position = depthAt lines position := by
  refine Finset.sum_congr rfl fun earlier member => weight_concat_of_lt ?_ line
  exact (Finset.mem_range.mp member).trans_le upTo

theorem depthAt_concat_length_succ (lines : List Text) (line : Text) :
    depthAt (lines ++ [line]) (lines.length + 1) = depthAt lines lines.length +
      if Scanner.isMarked line || commentOpen lines then 0 else Scanner.balance line := by
  have last : (lines ++ [line]).getD lines.length [] = line := by simp
  rw [depthAt, Finset.sum_range_succ, weight, isComment_concat_length, last]
  exact congrArg (· + _) (depthAt_concat_of_le le_rfl line)

theorem opens_concat_of_lt (before : position < lines.length) (line : Text) {kind : Kind} {name : Text} :
    Opens (lines ++ [line]) position kind name ↔ Opens lines position kind name := by
  rw [Opens, Opens, List.getElem?_append_left before, isComment_concat_of_lt before,
    depthAt_concat_of_le before.le]

theorem opens_concat_length (lines : List Text) (line : Text) {kind : Kind} {name : Text} :
    Opens (lines ++ [line]) lines.length kind name ↔
      (Scanner.isMarked line || commentOpen lines) = false ∧ depthAt lines lines.length = 0 ∧
        Declares line.trim kind name := by
  rw [Opens, isComment_concat_length, depthAt_concat_of_le le_rfl, List.getElem?_concat_length]
  simp

theorem closes_concat_of_lt (before : position < lines.length) (line : Text) :
    Closes (lines ++ [line]) position ↔ Closes lines position := by
  rw [Closes, Closes, isComment_concat_of_lt before, depthAt_concat_of_le before.le,
    depthAt_concat_of_le (Nat.succ_le_of_lt before)]
  simp only [before, before.trans (by simp : lines.length < (lines ++ [line]).length)]

theorem closes_concat_length (lines : List Text) (line : Text) :
    Closes (lines ++ [line]) lines.length ↔
      (Scanner.isMarked line || commentOpen lines) = false ∧
        depthAt lines lines.length + Scanner.balance line = 0 ∧ 0 < depthAt lines lines.length := by
  rw [Closes, isComment_concat_length, depthAt_concat_length_succ, depthAt_concat_of_le le_rfl]
  constructor
  · rintro ⟨-, code, level, deep⟩
    rw [code] at level
    exact ⟨code, level, deep⟩
  · rintro ⟨code, level, deep⟩
    rw [code]
    exact ⟨by simp, rfl, level, deep⟩

theorem Opens.lt_length {kind : Kind} {name : Text} (h : Opens lines position kind name) :
    position < lines.length := by
  obtain ⟨line, there, -⟩ := h
  exact (List.getElem?_eq_some_iff.mp there).1

theorem commentOpen_concat (lines : List Text) (line : Text) :
    commentOpen (lines ++ [line]) = Scanner.commentAfter (commentOpen lines) line := by
  cases marked : Scanner.isMarked line with
  | true =>
      unfold commentOpen Scanner.commentAfter
      rw [List.filter_append, List.filter_cons_of_pos marked, List.filter_nil, List.getLast?_concat]
      unfold Scanner.isMarked at marked
      cases closes : line.contains "*/" with
      | true => simp only [Option.any_some, closes, Bool.not_true, Bool.and_false, Bool.false_and]
      | false =>
          rw [closes, Bool.false_or] at marked
          simp only [Option.any_some, closes, marked, Bool.not_false, Bool.true_and, Bool.true_or]
  | false =>
      rw [Scanner.commentAfter_of_unmarked marked, commentOpen, commentOpen, List.filter_append,
        List.filter_cons_of_neg (by simp [marked]), List.filter_nil, List.append_nil]

/-! ## Elements that have ended and elements that have not -/

def HasEnded (lines : List Text) (element : Element) : Prop :=
  ∃ first last, element.startLine = first + 1 ∧ element.endLine = last + 1 ∧
    Opens lines first element.kind element.name ∧
    (element.isMovable = false ∧ last = first ∨
      element.isMovable = true ∧ first < last ∧ Closes lines last ∧
        ∀ between, first < between → between < last → ¬ Closes lines between)

def IsPending (lines : List Text) (element : Element) : Prop :=
  element.isMovable = true ∧ ∃ first, element.startLine = first + 1 ∧
    Opens lines first element.kind element.name ∧ ∀ later, first < later → ¬ Closes lines later

theorem HasEnded.concat {element : Element} (h : HasEnded lines element) (line : Text) :
    HasEnded (lines ++ [line]) element := by
  obtain ⟨first, last, starts, ends, opens, closed⟩ := h
  refine ⟨first, last, starts, ends, (opens_concat_of_lt opens.lt_length line).mpr opens, ?_⟩
  rcases closed with single | ⟨movable, after, closes, least⟩
  · exact Or.inl single
  · have inside : last < lines.length := closes.1
    refine Or.inr ⟨movable, after, (closes_concat_of_lt inside line).mpr closes, fun between later sooner => ?_⟩
    exact (closes_concat_of_lt (sooner.trans inside) line).not.mpr (least between later sooner)

theorem IsPending.push {element : Element} (h : IsPending lines element) {line : Text}
    (stays : ¬ Closes (lines ++ [line]) lines.length) : IsPending (lines ++ [line]) (element.push line) := by
  obtain ⟨movable, first, starts, opens, never⟩ := h
  refine ⟨movable, first, starts, (opens_concat_of_lt opens.lt_length line).mpr opens, fun later after => ?_⟩
  rcases Nat.lt_trichotomy later lines.length with before | rfl | beyond
  · exact (closes_concat_of_lt before line).not.mpr (never later after)
  · exact stays
  · exact fun closes => beyond.not_ge (le_of_lt_length_concat closes.1)

theorem IsPending.close {element : Element} (h : IsPending lines element) {line : Text}
    (reaches : (element.push line).endLine = lines.length + 1)
    (closes : Closes (lines ++ [line]) lines.length) : HasEnded (lines ++ [line]) (element.push line) := by
  obtain ⟨movable, first, starts, opens, never⟩ := h
  refine ⟨first, lines.length, starts, reaches, (opens_concat_of_lt opens.lt_length line).mpr opens, ?_⟩
  refine Or.inr ⟨movable, opens.lt_length, closes, fun between after before => ?_⟩
  exact (closes_concat_of_lt before line).not.mpr (never between after)

theorem HasEnded.isSegment {element : Element} (h : HasEnded lines element) (stands : element.StandsIn lines) :
    ∃ first, IsSegment lines element first := by
  obtain ⟨first, last, starts, ends, opens, closed⟩ := h
  refine ⟨first, starts, opens, last, ?_, ?_⟩
  · rcases closed with ⟨shared, rfl⟩ | ⟨movable, after, closes, least⟩
    · exact .single shared
    · exact .closing movable after closes least
  · have run := stands.verbatim
    rwa [starts, ends, Nat.add_sub_cancel, Nat.add_sub_add_right] at run

theorem IsPending.isSegment {element : Element} (h : IsPending lines element) (stands : element.StandsIn lines)
    (reaches : element.endLine = lines.length) : ∃ first, IsSegment lines element first := by
  obtain ⟨movable, first, starts, opens, never⟩ := h
  have inside : lines.length - 1 + 1 = lines.length := by
    have := opens.lt_length
    omega
  refine ⟨first, starts, opens, lines.length - 1, .unclosed movable inside never, ?_⟩
  have run := stands.verbatim
  rwa [starts, reaches, Nat.add_sub_cancel, Nat.add_sub_add_right, ← inside] at run

/-! ## What a line leaves behind -/

namespace Scanner

variable {scanner : Scanner} {line : Text}

theorem depth_feed (scanner : Scanner) (line : Text) :
    (scanner.feed line).depth = scanner.depth + if scanner.skips line then 0 else balance line := by
  have step := step_feed scanner line
  generalize scanner.feed line = after at step ⊢
  cases step with
  | comment skipped => simp [skipped]
  | within code isOpen stays => simp [code]
  | closing code isOpen level deep => simp [code, level]
  | opening code free level reads movable => simp [code, level]
  | single code free level reads shared => simp [code, level]
  | idle code free silent => simp [code]

theorem inComment_feed (scanner : Scanner) (line : Text) :
    (scanner.feed line).inComment = commentAfter scanner.inComment line := by
  have step := step_feed scanner line
  generalize scanner.feed line = after at step ⊢
  have outside (code : scanner.skips line = false) :
      scanner.inComment = commentAfter scanner.inComment line :=
    (commentAfter_of_unmarked (skips_eq_false_iff.mp code).1 scanner.inComment).symm
  cases step with
  | comment skipped => rfl
  | within code isOpen stays => exact outside code
  | closing code isOpen level deep => exact outside code
  | opening code free level reads movable => exact outside code
  | single code free level reads shared => exact outside code
  | idle code free silent => exact outside code

theorem finish_feed_of_open {element : Element} (isOpen : scanner.current = some element) (line : Text) :
    (scanner.feed line).finish = scanner.elements ++ [element.push line] := by
  rcases feed_of_open isOpen line with ⟨now, same⟩ | ⟨neutral, found⟩
  · rw [finish_of_current now, same]
  · rw [finish_of_free neutral.current, found]

theorem finish_feed_of_free (free : scanner.current = none) (line : Text) :
    (scanner.feed line).finish = scanner.elements ∨
      ∃ kind name, (scanner.feed line).finish = scanner.elements ++ [scanner.opened line kind name] := by
  have step := step_feed scanner line
  generalize scanner.feed line = after at step ⊢
  cases step with
  | comment skipped => simp [finish, free]
  | within code isOpen stays => cases free.symm.trans isOpen
  | closing code isOpen level deep => cases free.symm.trans isOpen
  | opening code free level reads movable => exact Or.inr ⟨_, _, rfl⟩
  | single code free level reads shared => exact Or.inr ⟨_, _, finish_of_free free⟩
  | idle code free silent => exact Or.inl (finish_of_free free)

theorem feed_of_silent (silent : Element.opening? line.trim = none) (free : scanner.current = none) :
    (scanner.feed line).current = none ∧ (scanner.feed line).elements = scanner.elements := by
  have step := step_feed scanner line
  generalize scanner.feed line = after at step ⊢
  cases step with
  | comment skipped => exact ⟨Option.map_eq_none_iff.mpr free, rfl⟩
  | within code isOpen stays => cases free.symm.trans isOpen
  | closing code isOpen level deep => cases free.symm.trans isOpen
  | opening code free' level reads movable => cases silent.symm.trans reads
  | single code free' level reads shared => cases silent.symm.trans reads
  | idle code free' silent' => exact ⟨free, rfl⟩

theorem push_mem_finish_feed {element : Element} (isOpen : scanner.current = some element) (line : Text) :
    element.push line ∈ (scanner.feed line).finish := by
  rw [finish_feed_of_open isOpen line]
  exact List.mem_append_right _ List.mem_cons_self

theorem opened_mem_finish_feed {kind : Kind} {name : Text} (code : scanner.skips line = false)
    (free : scanner.current = none) (level : scanner.depth = 0)
    (reads : Element.opening? line.trim = some (kind, name)) :
    scanner.opened line kind name ∈ (scanner.feed line).finish := by
  have step := step_feed scanner line
  generalize scanner.feed line = after at step ⊢
  cases step with
  | comment skipped => cases code.symm.trans skipped
  | within code' isOpen stays => cases isOpen.symm.trans free
  | closing code' isOpen level' deep => cases isOpen.symm.trans free
  | opening code' free' level' reads' movable =>
      cases reads.symm.trans reads'
      simp [finish]
  | single code' free' level' reads' shared =>
      cases reads.symm.trans reads'
      simp [finish]
  | idle code' free' silent => cases reads.symm.trans (silent level)

theorem exists_mem_finish_feed {element : Element} (member : element ∈ scanner.finish) (line : Text) :
    ∃ later ∈ (scanner.feed line).finish, later.kind = element.kind ∧ later.startLine = element.startLine ∧
      element.endLine ≤ later.endLine := by
  rcases List.mem_append.mp member with finished | isOpen
  · have still := (elements_prefix_feed scanner line).subset finished
    exact ⟨element, List.mem_append_left _ still, rfl, rfl, le_rfl⟩
  · have pushed := push_mem_finish_feed (Option.mem_toList.mp isOpen) line
    refine ⟨element.push line, pushed, rfl, rfl, ?_⟩
    rw [Element.endLine_push, Element.endLine]
    omega

/-! ## The scanner after some lines -/

structure Segmented (lines : List Text) (scanner : Scanner) : Prop where
  tracks : scanner.Tracks lines
  depth_eq : scanner.depth = depthAt lines lines.length
  comment_eq : scanner.inComment = commentOpen lines
  ended : ∀ element ∈ scanner.elements, HasEnded lines element
  pending : ∀ element, scanner.current = some element → IsPending lines element
  complete : ∀ position kind name, Opens lines position kind name →
    (∀ element ∈ scanner.finish, ¬ Covers element position) →
      ∃ element ∈ scanner.finish, element.startLine = position + 1

theorem segmented_fresh : Segmented [] {} where
  tracks := tracks_fresh
  depth_eq := rfl
  comment_eq := rfl
  ended := nofun
  pending := nofun
  complete := fun position _ _ opens => absurd opens.lt_length (Nat.not_lt_zero position)

namespace Segmented

theorem skips_eq (h : scanner.Segmented lines) (line : Text) :
    scanner.skips line = (isMarked line || commentOpen lines) := by
  rw [skips, h.comment_eq]

theorem closes_iff (h : scanner.Segmented lines) (line : Text) :
    Closes (lines ++ [line]) lines.length ↔
      scanner.skips line = false ∧ scanner.depth + balance line = 0 ∧ 0 < scanner.depth := by
  rw [closes_concat_length, h.skips_eq, h.depth_eq]

theorem opens_iff (h : scanner.Segmented lines) (line : Text) {kind : Kind} {name : Text} :
    Opens (lines ++ [line]) lines.length kind name ↔
      scanner.skips line = false ∧ scanner.depth = 0 ∧ Element.opening? line.trim = some (kind, name) := by
  rw [opens_concat_length, h.skips_eq, h.depth_eq, opening?_eq_some_iff]

theorem isPending_opened (h : scanner.Segmented lines) {kind : Kind} {name : Text}
    (opens : Opens (lines ++ [line]) lines.length kind name) (movable : kind.isMovable = true) :
    IsPending (lines ++ [line]) (scanner.opened line kind name) := by
  refine ⟨movable, lines.length, congrArg (· + 1) h.tracks.count, opens, fun later after closes => ?_⟩
  exact after.not_ge (le_of_lt_length_concat closes.1)

theorem hasEnded_opened (h : scanner.Segmented lines) {kind : Kind} {name : Text}
    (opens : Opens (lines ++ [line]) lines.length kind name) (shared : kind.isMovable = false) :
    HasEnded (lines ++ [line]) (scanner.opened line kind name) := by
  have starts : (scanner.opened line kind name).startLine = lines.length + 1 := congrArg (· + 1) h.tracks.count
  exact ⟨lines.length, lines.length, starts, starts, opens, Or.inl ⟨shared, rfl⟩⟩

theorem ended_feed (h : scanner.Segmented lines) (line : Text) :
    ∀ element ∈ (scanner.feed line).elements, HasEnded (lines ++ [line]) element := by
  intro element member
  have step := step_feed scanner line
  generalize scanner.feed line = after at step member
  cases step with
  | @closing before code isOpen level deep =>
      rcases List.mem_append.mp member with old | new
      · exact (h.ended element old).concat line
      · obtain rfl := List.mem_singleton.mp new
        have reaches := h.tracks.reaches_push isOpen line
        rw [List.length_append, List.length_singleton] at reaches
        exact (h.pending before isOpen).close reaches ((h.closes_iff line).mpr ⟨code, level, deep⟩)
  | single code free level reads shared =>
      rcases List.mem_append.mp member with old | new
      · exact (h.ended element old).concat line
      · obtain rfl := List.mem_singleton.mp new
        exact h.hasEnded_opened ((h.opens_iff line).mpr ⟨code, level, reads⟩) shared
  | _ => exact (h.ended element member).concat line

theorem pending_feed (h : scanner.Segmented lines) (line : Text) :
    ∀ element, (scanner.feed line).current = some element → IsPending (lines ++ [line]) element := by
  intro element now
  have step := step_feed scanner line
  generalize scanner.feed line = after at step now
  cases step with
  | comment skipped =>
      obtain ⟨before, isOpen, rfl⟩ := Option.map_eq_some_iff.mp now
      refine (h.pending before isOpen).push fun closes => ?_
      have code := ((h.closes_iff line).mp closes).1
      cases code.symm.trans skipped
  | @within before code isOpen stays =>
      cases now
      exact (h.pending before isOpen).push fun closes => stays ((h.closes_iff line).mp closes).2
  | closing code isOpen level deep => cases now
  | opening code free level reads movable =>
      cases now
      exact h.isPending_opened ((h.opens_iff line).mpr ⟨code, level, reads⟩) movable
  | single code free level reads shared => cases free.symm.trans now
  | idle code free silent => cases free.symm.trans now

theorem complete_feed (h : scanner.Segmented lines) (line : Text) {position : Nat} {kind : Kind} {name : Text}
    (opens : Opens (lines ++ [line]) position kind name)
    (uncovered : ∀ element ∈ (scanner.feed line).finish, ¬ Covers element position) :
    ∃ element ∈ (scanner.feed line).finish, element.startLine = position + 1 := by
  rcases (le_of_lt_length_concat opens.lt_length).lt_or_eq with before | rfl
  · have openedBefore := (opens_concat_of_lt before line).mp opens
    have uncoveredBefore : ∀ element ∈ scanner.finish, ¬ Covers element position := by
      rintro element member ⟨movable, after, reaches⟩
      obtain ⟨later, there, kind, start, longer⟩ := exists_mem_finish_feed member line
      have stillMovable : later.isMovable = true := by rwa [Element.isMovable, kind]
      exact uncovered later there ⟨stillMovable, start ▸ after, reaches.trans longer⟩
    obtain ⟨element, member, starts⟩ := h.complete position kind name openedBefore uncoveredBefore
    obtain ⟨later, there, -, start, -⟩ := exists_mem_finish_feed member line
    exact ⟨later, there, start.trans starts⟩
  · obtain ⟨code, level, reads⟩ := (h.opens_iff line).mp opens
    cases now : scanner.current with
    | none =>
        have found := opened_mem_finish_feed code now level reads
        exact ⟨_, found, congrArg (· + 1) h.tracks.count⟩
    | some element =>
        -- An open element takes the line, and so covers its position.
        have found := push_mem_finish_feed now line
        have reaches := h.tracks.reaches_push now line
        obtain ⟨movable, first, starts, began, -⟩ := h.pending element now
        refine absurd ⟨movable, ?_, ?_⟩ (uncovered (element.push line) found)
        · change element.startLine < lines.length + 1
          have := began.lt_length
          omega
        · rw [reaches, List.length_append, List.length_singleton]

theorem feed (h : scanner.Segmented lines) (line : Text) : (scanner.feed line).Segmented (lines ++ [line]) where
  tracks := h.tracks.feed line
  depth_eq := by
    rw [depth_feed, h.skips_eq, h.depth_eq, List.length_append, List.length_singleton,
      depthAt_concat_length_succ]
  comment_eq := by rw [inComment_feed, h.comment_eq, commentOpen_concat]
  ended := h.ended_feed line
  pending := h.pending_feed line
  complete := fun _ _ _ opens uncovered => h.complete_feed line opens uncovered

theorem exists_isSegment (h : scanner.Segmented lines) {element : Element} (member : element ∈ scanner.finish) :
    ∃ first, IsSegment lines element first := by
  have stands := h.tracks.laid.standing element member
  rcases List.mem_append.mp member with finished | isOpen
  · exact (h.ended element finished).isSegment stands
  · have now := Option.mem_toList.mp isOpen
    exact (h.pending element now).isSegment stands (h.tracks.reaches element now)

theorem isSegmentation (h : scanner.Segmented lines) : IsSegmentation lines scanner.finish := by
  have laid := h.tracks.laid
  refine ⟨?_, ?_, h.complete⟩
  · refine laid.ordered.imp_of_mem fun {earlier later} first second before => ?_
    have := (laid.standing earlier first).endLine_eq
    have := (laid.standing earlier first).length_pos
    omega
  · intro element member
    obtain ⟨first, segment⟩ := h.exists_isSegment member
    refine ⟨first, segment, fun other there covers => ?_⟩
    obtain ⟨-, after, reaches⟩ := covers
    have starts := segment.1
    have distinct : other ≠ element := by
      rintro rfl
      omega
    have := laid.apart there member distinct
    have := (laid.standing element member).endLine_eq
    have := (laid.standing element member).length_pos
    omega

end Segmented

theorem segmented_feedAll (lines : List Text) : (Scanner.feedAll {} lines).Segmented lines :=
  feedAll_induction (fun lines scanner => scanner.Segmented lines) segmented_fresh (fun _ _ h line => h.feed line) lines

theorem isMovable_of_open {element : Element} (isOpen : (feedAll {} lines).current = some element) :
    element.isMovable = true :=
  ((segmented_feedAll lines).pending element isOpen).1

/-- The scanner returns a list of elements if and only if the list is the segmentation of its lines. -/
theorem finish_feedAll_eq_iff (lines : List Text) (elements : List Element) :
    (Scanner.feedAll {} lines).finish = elements ↔ IsSegmentation lines elements := by
  have found := (segmented_feedAll lines).isSegmentation
  constructor
  · rintro rfl
    exact found
  · intro segmentation
    exact found.unique segmentation

end Scanner

end ScriptSplit
