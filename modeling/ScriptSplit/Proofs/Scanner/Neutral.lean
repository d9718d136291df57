import ScriptSplit.Proofs.Scanner.Step
import Mathlib.Data.List.Induction

namespace ScriptSplit

def Element.moved (count : Nat) (element : Element) : Element :=
  { element with startLine := count + element.startLine }

@[simp] theorem Element.moved_push (count : Nat) (element : Element) (line : Text) :
    (element.push line).moved count = (element.moved count).push line := rfl

namespace Scanner

def behind (scanner : Scanner) (earlier : List Element) (count : Nat) : Scanner :=
  { scanner with
    current := scanner.current.map (·.moved count)
    elements := earlier ++ scanner.elements.map (·.moved count)
    lineNumber := count + scanner.lineNumber }

structure IsNeutral (scanner : Scanner) : Prop where
  depth : scanner.depth = 0
  inComment : scanner.inComment = false
  current : scanner.current = none

theorem isNeutral_fresh : IsNeutral {} := ⟨rfl, rfl, rfl⟩

def resumed (scanner : Scanner) : Scanner := { depth := scanner.depth, inComment := scanner.inComment }

theorem eq_behind_resumed {scanner : Scanner} (free : scanner.current = none) :
    scanner = behind scanner.resumed scanner.elements scanner.lineNumber := by
  obtain ⟨depth, inComment, current, elements, lineNumber⟩ := scanner
  cases free
  simp [behind, resumed]

theorem IsNeutral.resumed_eq {scanner : Scanner} (h : scanner.IsNeutral) : scanner.resumed = {} := by
  rw [resumed, h.depth, h.inComment]

theorem IsNeutral.eq_behind {scanner : Scanner} (h : scanner.IsNeutral) :
    scanner = behind {} scanner.elements scanner.lineNumber :=
  h.resumed_eq ▸ eq_behind_resumed h.current

variable (earlier : List Element) (count : Nat)

theorem feedCode_behind (scanner : Scanner) (line : Text) :
    (scanner.behind earlier count).feedCode line = (scanner.feedCode line).behind earlier count := by
  cases now : scanner.current with
  | some element =>
      simp only [feedCode, behind, now, Option.map_some]
      split <;> simp
  | none =>
      simp only [feedCode, start, behind, now, Option.map_none]
      split
      · cases reads : Element.opening? line.trim with
        | none => simp
        | some declaration =>
            obtain ⟨kind, name⟩ := declaration
            cases movable : kind.isMovable <;> simp [movable, Element.moved]
      · simp

theorem feed_behind (scanner : Scanner) (line : Text) :
    (scanner.behind earlier count).feed line = (scanner.feed line).behind earlier count := by
  cases code : scanner.skips line with
  | true =>
      have skipped : (scanner.behind earlier count).skips line = true := code
      rw [feed_of_skips code, feed_of_skips skipped]
      simp only [behind, Option.map_map, Function.comp_def, Element.moved_push, Nat.add_assoc]
  | false =>
      have outside : (scanner.behind earlier count).skips line = false := code
      rw [feed_of_code code, feed_of_code outside, ← feedCode_behind]
      simp only [behind, Nat.add_assoc]

theorem feedAll_behind (scanner : Scanner) (lines : List Text) :
    (scanner.behind earlier count).feedAll lines = (scanner.feedAll lines).behind earlier count := by
  induction lines generalizing scanner with
  | nil => rfl
  | cons line rest ih =>
      simp only [feedAll, List.foldl_cons] at ih ⊢
      rw [feed_behind, ih]

theorem finish_behind (scanner : Scanner) :
    (scanner.behind earlier count).finish = earlier ++ scanner.finish.map (·.moved count) := by
  cases now : scanner.current <;> simp [finish, behind, now]

theorem finish_feedAll_of_free {scanner : Scanner} (free : scanner.current = none) (lines : List Text) :
    (scanner.feedAll lines).finish =
      scanner.elements ++ (scanner.resumed.feedAll lines).finish.map (·.moved scanner.lineNumber) := by
  rw [← finish_behind, ← feedAll_behind, ← eq_behind_resumed free]

theorem feedAll_append (scanner : Scanner) (lines later : List Text) :
    scanner.feedAll (lines ++ later) = (scanner.feedAll lines).feedAll later :=
  List.foldl_append

theorem feedAll_concat (scanner : Scanner) (lines : List Text) (line : Text) :
    scanner.feedAll (lines ++ [line]) = (scanner.feedAll lines).feed line :=
  feedAll_append scanner lines [line]

theorem feedAll_induction (holds : List Text → Scanner → Prop) (fresh : holds [] {})
    (keeps : ∀ lines scanner, holds lines scanner → ∀ line, holds (lines ++ [line]) (scanner.feed line))
    (lines : List Text) : holds lines (feedAll {} lines) := by
  induction lines using List.reverseRecOn with
  | nil => exact fresh
  | append_singleton lines line ih =>
      rw [feedAll_concat]
      exact keeps lines _ ih line

theorem IsNeutral.feedAll {scanner : Scanner} (h : scanner.IsNeutral) (lines : List Text) :
    scanner.feedAll lines = (Scanner.feedAll {} lines).behind scanner.elements scanner.lineNumber := by
  rw [← feedAll_behind, ← h.eq_behind]

@[simp] theorem lineNumber_feed (scanner : Scanner) (line : Text) :
    (scanner.feed line).lineNumber = scanner.lineNumber + 1 := by
  have step := step_feed scanner line
  generalize scanner.feed line = next at step
  cases step <;> rfl

@[simp] theorem lineNumber_feedAll (scanner : Scanner) (lines : List Text) :
    (scanner.feedAll lines).lineNumber = scanner.lineNumber + lines.length := by
  induction lines generalizing scanner with
  | nil => rfl
  | cons line rest ih =>
      change ((scanner.feed line).feedAll rest).lineNumber = _
      rw [ih, lineNumber_feed, List.length_cons]
      omega

end Scanner

def Element.StandsAlone (element : Element) : Prop :=
  Scanner.feedAll {} element.lines =
    { elements := [{ element with startLine := 1 }], lineNumber := element.lines.length }

namespace Scanner

/-- While an element is open, the scanner is a fresh one that was fed the element's lines. -/
def OpenedAfresh (scanner : Scanner) : Prop :=
  ∀ element, scanner.current = some element → ∃ count, element.startLine = count + 1 ∧
    scanner = (feedAll {} element.lines).behind scanner.elements count

theorem eq_of_behind {scanner after : Scanner} {earlier : List Element} {count : Nat} {element : Element}
    (same : after = scanner.behind earlier count) (neutral : after.IsNeutral)
    (first : element.startLine = count + 1) (found : after.elements = earlier ++ [element]) :
    scanner = { elements := [{ element with startLine := 1 }], lineNumber := scanner.lineNumber } := by
  subst same
  obtain ⟨depth, inComment, current, elements, lineNumber⟩ := scanner
  obtain ⟨rfl, rfl, free⟩ := neutral
  obtain rfl : current = none := by simpa [behind] using free
  obtain ⟨own, rfl, moved⟩ : ∃ own, elements = [own] ∧ own.moved count = element := by
    simpa [behind, List.map_eq_singleton_iff] using found
  subst moved
  obtain ⟨kind, name, lines, startLine⟩ := own
  have : startLine = 1 := by
    simp only [Element.moved] at first
    omega
  simp [Element.moved, this]

theorem OpenedAfresh.feed_eq {scanner : Scanner} (h : scanner.OpenedAfresh) {element : Element}
    (isOpen : scanner.current = some element) (line : Text) : ∃ count, element.startLine = count + 1 ∧
      scanner.feed line = (feedAll {} (element.push line).lines).behind scanner.elements count := by
  obtain ⟨count, first, same⟩ := h element isOpen
  refine ⟨count, first, ?_⟩
  calc scanner.feed line
    _ = ((feedAll {} element.lines).behind scanner.elements count).feed line := by rw [← same]
    _ = (feedAll {} (element.push line).lines).behind scanner.elements count := by
        rw [feed_behind, ← feedAll_concat, Element.push]

theorem isNeutral_of_code {scanner : Scanner} {line : Text} (code : scanner.skips line = false)
    (free : scanner.current = none) (level : scanner.depth = 0) : scanner.IsNeutral :=
  ⟨level, (skips_eq_false_iff.mp code).2, free⟩

theorem feed_of_open {scanner : Scanner} {element : Element} (isOpen : scanner.current = some element)
    (line : Text) :
    (scanner.feed line).current = some (element.push line) ∧ (scanner.feed line).elements = scanner.elements ∨
    (scanner.feed line).IsNeutral ∧ (scanner.feed line).elements = scanner.elements ++ [element.push line] := by
  have step := step_feed scanner line
  generalize scanner.feed line = after at step ⊢
  cases step with
  | comment skipped => exact Or.inl ⟨congrArg (Option.map _) isOpen, rfl⟩
  | within code isOpen' stays =>
      cases isOpen.symm.trans isOpen'
      exact Or.inl ⟨rfl, rfl⟩
  | closing code isOpen' level deep =>
      cases isOpen.symm.trans isOpen'
      exact Or.inr ⟨⟨rfl, (skips_eq_false_iff.mp code).2, rfl⟩, rfl⟩
  | opening code free level reads movable => cases isOpen.symm.trans free
  | single code free level reads shared => cases isOpen.symm.trans free
  | idle code free silent => cases isOpen.symm.trans free

theorem elements_prefix_feed (scanner : Scanner) (line : Text) :
    scanner.elements <+: (scanner.feed line).elements := by
  have step := step_feed scanner line
  generalize scanner.feed line = after at step ⊢
  cases step with
  | closing code isOpen level deep => exact List.prefix_append _ _
  | single code free level reads shared => exact List.prefix_append _ _
  | _ => exact List.prefix_rfl

theorem OpenedAfresh.feed {scanner : Scanner} (h : scanner.OpenedAfresh) (line : Text) :
    (scanner.feed line).OpenedAfresh := by
  intro element now
  have step := step_feed scanner line
  obtain ⟨after, next⟩ : ∃ after, scanner.feed line = after := ⟨_, rfl⟩
  rw [next] at step now ⊢
  cases step with
  | comment skipped =>
      obtain ⟨before, isOpen, rfl⟩ := Option.map_eq_some_iff.mp now
      obtain ⟨count, first, same⟩ := h.feed_eq isOpen line
      exact ⟨count, first, next.symm.trans same⟩
  | within code isOpen stays =>
      cases now
      obtain ⟨count, first, same⟩ := h.feed_eq isOpen line
      exact ⟨count, first, next.symm.trans same⟩
  | closing code isOpen level deep => cases now
  | opening code free level reads movable =>
      cases now
      exact ⟨scanner.lineNumber, rfl, next.symm.trans ((isNeutral_of_code code free level).feedAll [line])⟩
  | single code free level reads shared =>
      rw [free] at now
      cases now
  | idle code free silent =>
      rw [free] at now
      cases now

structure Reproducible (scanner : Scanner) : Prop where
  opened : scanner.OpenedAfresh
  finished : ∀ element ∈ scanner.elements,
    (element.isMovable = false → ∀ line ∈ element.lines, balance line = 0) → element.StandsAlone

theorem reproducible_fresh : Reproducible {} := ⟨nofun, nofun⟩

theorem Reproducible.feed {scanner : Scanner} (h : scanner.Reproducible) (line : Text) :
    (scanner.feed line).Reproducible := by
  refine ⟨h.opened.feed line, ?_⟩
  have step := step_feed scanner line
  obtain ⟨after, next⟩ : ∃ after, scanner.feed line = after := ⟨_, rfl⟩
  rw [next] at step ⊢
  intro element member balanced
  cases step with
  | comment skipped => exact h.finished element member balanced
  | within code isOpen stays => exact h.finished element member balanced
  | @closing before code isOpen level deep =>
      rcases List.mem_append.mp member with old | new
      · exact h.finished element old balanced
      · obtain rfl := List.mem_singleton.mp new
        obtain ⟨count, first, same⟩ := h.opened.feed_eq isOpen line
        have pushed : (before.push line).startLine = count + 1 := first
        have alone := eq_of_behind (next.symm.trans same) ⟨rfl, (skips_eq_false_iff.mp code).2, rfl⟩ pushed rfl
        rw [lineNumber_feedAll, Nat.zero_add] at alone
        exact alone
  | opening code free level reads movable => exact h.finished element member balanced
  | @single kind name code free level reads shared =>
      rcases List.mem_append.mp member with old | new
      · exact h.finished element old balanced
      · obtain rfl := List.mem_singleton.mp new
        have neutral := isNeutral_of_code code free level
        have even : balance line = 0 := balanced shared line List.mem_cons_self
        have alone := eq_of_behind (next.symm.trans (neutral.feedAll [line])) ⟨even, neutral.inComment, free⟩
          rfl rfl
        rw [lineNumber_feedAll, Nat.zero_add] at alone
        exact alone
  | idle code free silent => exact h.finished element member balanced

theorem reproducible_feedAll (lines : List Text) : (feedAll {} lines).Reproducible :=
  feedAll_induction (fun _ scanner => scanner.Reproducible) reproducible_fresh (fun _ _ h line => h.feed line) lines

theorem IsNeutral.feedAll_of_standsAlone {scanner : Scanner} (h : scanner.IsNeutral) {element : Element}
    (alone : element.StandsAlone) : scanner.feedAll element.lines =
      { scanner with
        elements := scanner.elements ++ [{ element with startLine := scanner.lineNumber + 1 }]
        lineNumber := scanner.lineNumber + element.lines.length } := by
  rw [h.feedAll, alone]
  simp [behind, Element.moved, h.depth, h.inComment, h.current]

end Scanner
end ScriptSplit
