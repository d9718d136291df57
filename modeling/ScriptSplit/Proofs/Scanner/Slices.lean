import ScriptSplit.Proofs.Scanner.Neutral
import Mathlib.Data.List.Nodup
import Mathlib.Data.List.Pairwise

namespace ScriptSplit

structure Element.StandsIn (lines : List Text) (element : Element) : Prop where
  nonempty : element.lines ≠ []
  placed : ∃ before after, lines = before ++ element.lines ++ after ∧ element.startLine = before.length + 1

namespace Element.StandsIn

variable {lines : List Text} {element : Element}

theorem startLine_pos (h : element.StandsIn lines) : 1 ≤ element.startLine := by
  obtain ⟨before, after, -, first⟩ := h.placed
  omega

theorem length_pos (h : element.StandsIn lines) : 0 < element.lines.length :=
  List.length_pos_iff.mpr h.nonempty

theorem endLine_eq (h : element.StandsIn lines) :
    element.endLine + 1 = element.startLine + element.lines.length := by
  have := h.length_pos
  unfold endLine
  omega

theorem endLine_le (h : element.StandsIn lines) : element.endLine ≤ lines.length := by
  obtain ⟨before, after, rfl, first⟩ := h.placed
  have := h.endLine_eq
  simp only [List.length_append]
  omega

theorem verbatim (h : element.StandsIn lines) :
    element.lines = (lines.drop (element.startLine - 1)).take (element.endLine + 1 - element.startLine) := by
  have last := h.endLine_eq
  obtain ⟨before, after, rfl, first⟩ := h.placed
  rw [last, first, Nat.add_sub_cancel, Nat.add_sub_cancel_left, List.append_assoc, List.drop_left, List.take_left]

theorem append (h : element.StandsIn lines) (more : List Text) : element.StandsIn (lines ++ more) := by
  obtain ⟨before, after, rfl, first⟩ := h.placed
  exact ⟨h.nonempty, before, after ++ more, by simp, first⟩

theorem push (h : element.StandsIn lines) (reaches : element.endLine = lines.length) (line : Text) :
    (element.push line).StandsIn (lines ++ [line]) := by
  have last := h.endLine_eq
  obtain ⟨before, after, rfl, first⟩ := h.placed
  obtain rfl : after = [] := by
    simp only [List.length_append] at reaches
    exact List.eq_nil_of_length_eq_zero (by omega)
  exact ⟨by simp [Element.push], before, [], by simp [Element.push], first⟩

theorem mem_span_iff (h : element.StandsIn lines) {number : Nat} :
    number ∈ List.range' element.startLine element.lines.length ↔
      element.startLine ≤ number ∧ number ≤ element.endLine := by
  have := h.endLine_eq
  rw [List.mem_range'_1]
  omega

end Element.StandsIn

theorem Element.standsIn_opened (lines : List Text) (kind : Kind) (name line : Text) :
    (⟨kind, name, [line], lines.length + 1⟩ : Element).StandsIn (lines ++ [line]) :=
  ⟨by simp, lines, [], by simp, rfl⟩

@[simp] theorem Element.endLine_push (element : Element) (line : Text) :
    (element.push line).endLine = element.startLine + element.lines.length := by
  simp [Element.endLine, Element.push]

structure Laid (lines : List Text) (elements : List Element) : Prop where
  standing : ∀ element ∈ elements, element.StandsIn lines
  ordered : elements.Pairwise fun earlier later => earlier.endLine < later.startLine

def spans (elements : List Element) : List Nat :=
  elements.flatMap fun element => List.range' element.startLine element.lines.length

namespace Laid

variable {lines : List Text} {elements : List Element}

theorem nil (lines : List Text) : Laid lines [] := ⟨nofun, List.Pairwise.nil⟩

theorem append_line (h : Laid lines elements) (line : Text) : Laid (lines ++ [line]) elements :=
  ⟨fun element member => (h.standing element member).append [line], h.ordered⟩

theorem push_last {element : Element} (h : Laid lines (elements ++ [element]))
    (reaches : element.endLine = lines.length) (line : Text) :
    Laid (lines ++ [line]) (elements ++ [element.push line]) := by
  obtain ⟨earlier, -, before⟩ := List.pairwise_append.mp h.ordered
  constructor
  · intro other member
    rcases List.mem_append.mp member with old | new
    · exact (h.standing other (List.mem_append_left _ old)).append [line]
    · obtain rfl := List.mem_singleton.mp new
      exact (h.standing element (List.mem_append_right _ List.mem_cons_self)).push reaches line
  · refine List.pairwise_append.mpr ⟨earlier, List.pairwise_singleton _ _, ?_⟩
    intro other member last isLast
    obtain rfl := List.mem_singleton.mp isLast
    exact before other member element List.mem_cons_self

theorem open_next (h : Laid lines elements) (kind : Kind) (name line : Text) :
    Laid (lines ++ [line]) (elements ++ [⟨kind, name, [line], lines.length + 1⟩]) := by
  constructor
  · intro other member
    rcases List.mem_append.mp member with old | new
    · exact (h.standing other old).append [line]
    · obtain rfl := List.mem_singleton.mp new
      exact Element.standsIn_opened lines kind name line
  · refine List.pairwise_append.mpr ⟨h.ordered, List.pairwise_singleton _ _, ?_⟩
    intro other member last isLast
    obtain rfl := List.mem_singleton.mp isLast
    exact Nat.lt_succ_of_le (h.standing other member).endLine_le

theorem apart (h : Laid lines elements) {element other : Element} (member : element ∈ elements)
    (there : other ∈ elements) (distinct : element ≠ other) :
    element.endLine < other.startLine ∨ other.endLine < element.startLine := by
  let Apart (one two : Element) : Prop := one.endLine < two.startLine ∨ two.endLine < one.startLine
  have symmetric : Std.Symm Apart := ⟨fun one two => Or.symm⟩
  have eitherWay : elements.Pairwise Apart := h.ordered.imp Or.inl
  exact eitherWay.forall member there distinct

theorem nodup_spans (h : Laid lines elements) : (spans elements).Nodup := by
  refine List.nodup_flatMap.mpr ⟨fun element _ => List.nodup_range' 1, ?_⟩
  refine h.ordered.imp_of_mem fun {earlier later} first second before => ?_
  intro number early late
  have := (h.standing earlier first).mem_span_iff.mp early
  have := (h.standing later second).mem_span_iff.mp late
  omega

theorem mem_spans_iff (h : Laid lines elements) {number : Nat} : number ∈ spans elements ↔
    ∃ element ∈ elements, element.startLine ≤ number ∧ number ≤ element.endLine := by
  rw [spans, List.mem_flatMap]
  constructor
  · rintro ⟨element, member, within⟩
    exact ⟨element, member, (h.standing element member).mem_span_iff.mp within⟩
  · rintro ⟨element, member, bounds⟩
    exact ⟨element, member, (h.standing element member).mem_span_iff.mpr bounds⟩

theorem length_flatMap_lines (h : Laid lines elements) : (elements.flatMap Element.lines).length =
    (List.range' 1 lines.length).countP fun number =>
      elements.any fun element => element.startLine ≤ number && number ≤ element.endLine := by
  let covered := (List.range' 1 lines.length).filter fun number =>
    elements.any fun element => element.startLine ≤ number && number ≤ element.endLine
  have same (number : Nat) : number ∈ spans elements ↔ number ∈ covered := by
    simp only [h.mem_spans_iff, covered, List.mem_filter, List.any_eq_true, Bool.and_eq_true, decide_eq_true_eq]
    constructor
    · rintro ⟨element, member, bounds⟩
      have := (h.standing element member).startLine_pos
      have := (h.standing element member).endLine_le
      exact ⟨List.mem_range'_1.mpr (by omega), element, member, bounds⟩
    · rintro ⟨-, found⟩
      exact found
  have permuted : (spans elements).Perm covered :=
    (List.perm_ext_iff_of_nodup h.nodup_spans ((List.nodup_range' 1).filter _)).mpr same
  calc (elements.flatMap Element.lines).length
    _ = (spans elements).length := by simp [spans, List.length_flatMap]
    _ = covered.length := permuted.length_eq
    _ = _ := List.countP_eq_length_filter.symm

end Laid

structure Scanner.Tracks (lines : List Text) (scanner : Scanner) : Prop where
  count : scanner.lineNumber = lines.length
  laid : Laid lines scanner.finish
  reaches : ∀ element, scanner.current = some element → element.endLine = lines.length

namespace Scanner

theorem finish_of_current {scanner : Scanner} {element : Element} (isOpen : scanner.current = some element) :
    scanner.finish = scanner.elements ++ [element] := by
  rw [finish, isOpen, Option.toList_some]

theorem finish_of_free {scanner : Scanner} (free : scanner.current = none) :
    scanner.finish = scanner.elements := by
  rw [finish, free, Option.toList_none, List.append_nil]

theorem tracks_fresh : Tracks [] {} := ⟨rfl, Laid.nil [], nofun⟩

namespace Tracks

variable {lines : List Text} {scanner : Scanner}

theorem laid_push (h : scanner.Tracks lines) {element : Element} (isOpen : scanner.current = some element)
    (line : Text) : Laid (lines ++ [line]) (scanner.elements ++ [element.push line]) :=
  Laid.push_last (finish_of_current isOpen ▸ h.laid) (h.reaches element isOpen) line

theorem reaches_push (h : scanner.Tracks lines) {element : Element} (isOpen : scanner.current = some element)
    (line : Text) : (element.push line).endLine = (lines ++ [line]).length := by
  have member : element ∈ scanner.finish := by
    rw [finish_of_current isOpen]
    exact List.mem_append_right _ List.mem_cons_self
  have last := (h.laid.standing element member).endLine_eq
  rw [h.reaches element isOpen] at last
  rw [Element.endLine_push, ← last, List.length_append, List.length_singleton]

theorem laid_opened (h : scanner.Tracks lines) (free : scanner.current = none) (kind : Kind)
    (name line : Text) : Laid (lines ++ [line]) (scanner.elements ++ [scanner.opened line kind name]) := by
  have next := h.laid.open_next kind name line
  rwa [finish_of_free free, ← h.count] at next

theorem laid_idle (h : scanner.Tracks lines) (free : scanner.current = none) (line : Text) :
    Laid (lines ++ [line]) scanner.elements :=
  finish_of_free free ▸ h.laid.append_line line

theorem feed (h : scanner.Tracks lines) (line : Text) : (scanner.feed line).Tracks (lines ++ [line]) := by
  have count : (scanner.feed line).lineNumber = (lines ++ [line]).length := by
    rw [lineNumber_feed, h.count, List.length_append, List.length_singleton]
  have step := step_feed scanner line
  generalize scanner.feed line = after at step count ⊢
  refine ⟨count, ?_, ?_⟩
  · cases step with
    | comment skipped =>
        cases now : scanner.current with
        | none =>
            simpa only [finish, now, Option.map_none, Option.toList_none, List.append_nil] using
              h.laid_idle now line
        | some element => exact h.laid_push now line
    | within code isOpen stays => exact h.laid_push isOpen line
    | closing code isOpen level deep =>
        simpa only [finish, Option.toList_none, List.append_nil] using h.laid_push isOpen line
    | opening code free level reads movable => exact h.laid_opened free _ _ line
    | single code free level reads shared =>
        simpa only [finish, free, Option.toList_none, List.append_nil] using h.laid_opened free _ _ line
    | idle code free silent =>
        simpa only [finish, free, Option.toList_none, List.append_nil] using h.laid_idle free line
  · intro element now
    cases step with
    | comment skipped =>
        obtain ⟨before, isOpen, rfl⟩ := Option.map_eq_some_iff.mp now
        exact h.reaches_push isOpen line
    | within code isOpen stays =>
        cases now
        exact h.reaches_push isOpen line
    | closing code isOpen level deep => cases now
    | opening code free level reads movable =>
        cases now
        simp [opened, Element.endLine, h.count]
    | single code free level reads shared => cases free.symm.trans now
    | idle code free silent => cases free.symm.trans now

end Tracks

theorem tracks_feedAll (lines : List Text) : (feedAll {} lines).Tracks lines :=
  feedAll_induction (fun lines scanner => scanner.Tracks lines) tracks_fresh (fun _ _ h line => h.feed line) lines

end Scanner

theorem laid_scan (source : Text) : Laid source.lines (scan source) :=
  (Scanner.tracks_feedAll source.lines).laid

end ScriptSplit
