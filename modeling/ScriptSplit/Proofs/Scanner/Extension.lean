import ScriptSplit.Proofs.Scanner.Segmented
import Mathlib.Data.List.Forall2

namespace ScriptSplit

def Element.pushAll (element : Element) (lines : List Text) : Element :=
  { element with lines := element.lines ++ lines }

@[simp] theorem Element.pushAll_nil (element : Element) : element.pushAll [] = element := by
  simp [pushAll]

@[simp] theorem Element.pushAll_push (element : Element) (line : Text) (rest : List Text) :
    (element.push line).pushAll rest = element.pushAll (line :: rest) := by
  simp [pushAll, push]

def Element.GrowsTo (later : List Text) (element grown : Element) : Prop :=
  ∃ taken, taken <+: later ∧ grown = element.pushAll taken

theorem Element.growsTo_self (later : List Text) (element : Element) : element.GrowsTo later element :=
  ⟨[], List.nil_prefix, element.pushAll_nil.symm⟩

namespace Scanner

variable {scanner : Scanner} {element : Element}

theorem elements_prefix_feedAll (scanner : Scanner) (later : List Text) :
    scanner.elements <+: (scanner.feedAll later).elements := by
  induction later generalizing scanner with
  | nil => exact List.prefix_rfl
  | cons line rest ih => exact (elements_prefix_feed scanner line).trans (ih (scanner.feed line))

theorem elements_prefix_finish_feedAll (scanner : Scanner) (later : List Text) :
    scanner.elements <+: (scanner.feedAll later).finish :=
  (elements_prefix_feedAll scanner later).trans (List.prefix_append _ _)

structure Takes (scanner : Scanner) (later taken : List Text) : Prop where
  initial : taken <+: later
  stays : ∀ upTo, upTo <+: taken → upTo ≠ taken → (scanner.feedAll upTo).current ≠ none
  ends : taken = later ∨ (scanner.feedAll taken).current = none

theorem takes_nil {later : List Text} (done : later = [] ∨ scanner.current = none) : scanner.Takes later [] where
  initial := List.nil_prefix
  stays := fun _ initial proper => absurd (List.prefix_nil.mp initial) proper
  ends := done.imp_left Eq.symm

theorem Takes.cons {line : Text} {rest taken : List Text} (isOpen : scanner.current ≠ none)
    (h : (scanner.feed line).Takes rest taken) : scanner.Takes (line :: rest) (line :: taken) where
  initial := List.cons_prefix_cons.mpr ⟨rfl, h.initial⟩
  stays := by
    intro upTo initial proper
    cases upTo with
    | nil => exact isOpen
    | cons first more =>
        obtain ⟨rfl, within⟩ := List.cons_prefix_cons.mp initial
        exact h.stays more within fun same => proper (congrArg (first :: ·) same)
  ends := h.ends.imp_left (congrArg (line :: ·))

theorem exists_takes (isOpen : scanner.current = some element) (later : List Text) :
    ∃ taken, scanner.Takes later taken ∧
      scanner.elements ++ [element.pushAll taken] <+: (scanner.feedAll later).finish := by
  induction later generalizing scanner element with
  | nil =>
      refine ⟨[], takes_nil (Or.inl rfl), ?_⟩
      rw [Element.pushAll_nil, ← finish_of_current isOpen]
      exact List.prefix_rfl
  | cons line rest ih =>
      have occupied : scanner.current ≠ none := by simp [isOpen]
      rcases feed_of_open isOpen line with ⟨now, same⟩ | ⟨neutral, found⟩
      · obtain ⟨taken, takes, stands⟩ := ih now
        rw [same, Element.pushAll_push] at stands
        exact ⟨line :: taken, takes.cons occupied, stands⟩
      · refine ⟨[line], (takes_nil (Or.inr neutral.current)).cons occupied, ?_⟩
        have stands := elements_prefix_finish_feedAll (scanner.feed line) rest
        rwa [found] at stands

theorem exists_grown (scanner : Scanner) (later : List Text) :
    ∃ front, front <+: (scanner.feedAll later).finish ∧
      List.Forall₂ (Element.GrowsTo later) scanner.finish front := by
  have unchanged (elements : List Element) : List.Forall₂ (Element.GrowsTo later) elements elements :=
    List.forall₂_same.mpr fun element _ => element.growsTo_self later
  cases now : scanner.current with
  | none =>
      refine ⟨scanner.elements, elements_prefix_finish_feedAll scanner later, ?_⟩
      rw [finish_of_free now]
      exact unchanged scanner.elements
  | some element =>
      obtain ⟨taken, takes, stands⟩ := exists_takes now later
      refine ⟨_, stands, ?_⟩
      rw [finish_of_current now]
      exact List.rel_append (unchanged scanner.elements) (.cons ⟨taken, takes.initial, rfl⟩ .nil)

theorem getElem?_movable_feedAll (scanner : Scanner) (later : List Text) {position : Nat}
    (there : (Element.movable scanner.finish)[position]? = some element) :
    ∃ grown, element.GrowsTo later grown ∧
      (Element.movable (scanner.feedAll later).finish)[position]? = some grown := by
  obtain ⟨front, initial, grows⟩ := scanner.exists_grown later
  have alike : ∀ ⦃element grown : Element⦄, element.GrowsTo later grown →
      (element.isMovable = true ↔ grown.isMovable = true) := by
    rintro element - ⟨taken, -, rfl⟩
    exact Iff.rfl
  obtain ⟨sameLength, related⟩ := List.forall₂_iff_get.mp (List.rel_filter alike grows)
  obtain ⟨inside, rfl⟩ := List.getElem?_eq_some_iff.mp there
  have insideFront : position < (front.filter Element.isMovable).length := sameLength ▸ inside
  refine ⟨_, related position inside insideFront, ?_⟩
  have initialMovable : Element.movable front <+: Element.movable (scanner.feedAll later).finish :=
    initial.filter _
  exact List.prefix_iff_getElem?.mp initialMovable position insideFront

/-- When lines are appended, the elements found before stand at the front as they were, except that an open one
takes lines until it ends; each function and class keeps its number. -/
theorem finish_of_appended (lines later : List Text) :
    let before := feedAll {} lines
    let extended := (feedAll {} (lines ++ later)).finish
    (before.current = none → before.finish <+: extended) ∧
    (∀ element, before.current = some element → before.finish = before.elements ++ [element] ∧
      ∃ taken, before.Takes later taken ∧ before.elements ++ [element.pushAll taken] <+: extended) ∧
    ∀ (position : Nat) (element : Element), (Element.movable before.finish)[position]? = some element →
      ∃ taken, taken <+: later ∧ (Element.movable extended)[position]? = some (element.pushAll taken) := by
  intro before extended
  have onward : extended = (before.feedAll later).finish := congrArg finish (feedAll_append {} lines later)
  rw [onward]
  refine ⟨fun free => ?_, fun element isOpen => ?_, fun position element there => ?_⟩
  · rw [finish_of_free free]
    exact before.elements_prefix_finish_feedAll later
  · exact ⟨finish_of_current isOpen, exists_takes isOpen later⟩
  · obtain ⟨grown, ⟨taken, initial, rfl⟩, found⟩ := before.getElem?_movable_feedAll later there
    exact ⟨taken, initial, found⟩

def brokenOff : List Text := ["let a = 1;", "function f() \x7b", "/* \x7d"]

def brokenFunction : Element := ⟨.functionDecl, "f", ["function f() \x7b", "/* \x7d"], 2⟩

def continuation : List Text := ["*/", "\x7d", "class A \x7b"]

theorem finish_of_appended_brokenOff :
    (feedAll {} brokenOff).current = some brokenFunction ∧
    ∃ taken, (feedAll {} brokenOff).Takes continuation taken ∧
      (feedAll {} brokenOff).elements ++ [brokenFunction.pushAll taken] <+:
        (feedAll {} (brokenOff ++ continuation)).finish := by
  have isOpen : (feedAll {} brokenOff).current = some brokenFunction := by decide
  exact ⟨isOpen, ((finish_of_appended brokenOff continuation).2.1 brokenFunction isOpen).2⟩

theorem isNeutral_of_closed (isOpen : scanner.current = some element) {line : Text}
    (ends : (scanner.feed line).current = none) :
    (scanner.feed line).IsNeutral ∧ (scanner.feed line).elements = scanner.elements ++ [element.push line] := by
  rcases feed_of_open isOpen line with ⟨now, -⟩ | closed
  · cases now.symm.trans ends
  · exact closed

theorem mem_elements_feed {line : Text} (member : element ∈ (scanner.feed line).elements)
    (movable : element.isMovable = true) : element ∈ scanner.elements ∨
      (scanner.feed line).IsNeutral ∧ ∃ before, scanner.current = some before ∧ element = before.push line := by
  have step := step_feed scanner line
  generalize scanner.feed line = after at step member ⊢
  cases step with
  | @closing before code isOpen level deep =>
      rcases List.mem_append.mp member with old | new
      · exact Or.inl old
      · exact Or.inr ⟨⟨rfl, (skips_eq_false_iff.mp code).2, rfl⟩, before, isOpen, List.mem_singleton.mp new⟩
  | single code free level reads shared =>
      rcases List.mem_append.mp member with old | new
      · exact Or.inl old
      · obtain rfl := List.mem_singleton.mp new
        cases movable.symm.trans shared
  | _ => exact Or.inl member

theorem isNeutral_take_endLine {lines : List Text} (member : element ∈ (feedAll {} lines).elements)
    (movable : element.isMovable = true) : (feedAll {} (lines.take element.endLine)).IsNeutral := by
  induction lines using List.reverseRecOn with
  | nil => cases member
  | append_singleton lines line ih =>
      have tracks := tracks_feedAll lines
      rw [feedAll_concat] at member
      rcases mem_elements_feed member movable with old | ⟨neutral, before, isOpen, rfl⟩
      · have stands := tracks.laid.standing element (List.mem_append_left _ old)
        rw [List.take_append_of_le_length stands.endLine_le]
        exact ih old
      · rwa [tracks.reaches_push isOpen line, List.take_length, feedAll_concat]

theorem finish_from_neutral :
    (∀ lines later : List Text, (feedAll {} lines).IsNeutral →
      (feedAll {} (lines ++ later)).finish =
        (feedAll {} lines).finish ++ (feedAll {} later).finish.map (·.moved lines.length)) ∧
    (∀ (lines : List Text) (line : Text) (element : Element), (feedAll {} lines).current = some element →
      (feedAll {} (lines ++ [line])).current = none →
        element.isMovable = true ∧ (feedAll {} (lines ++ [line])).IsNeutral ∧
          (feedAll {} (lines ++ [line])).elements = (feedAll {} lines).elements ++ [element.push line]) ∧
    ∀ (lines : List Text), ∀ element ∈ (feedAll {} lines).elements, element.isMovable = true →
      (feedAll {} (lines.take element.endLine)).IsNeutral := by
  refine ⟨fun lines later neutral => ?_, fun lines line element isOpen ends => ?_,
    fun lines element member movable => isNeutral_take_endLine member movable⟩
  · rw [feedAll_append, finish_feedAll_of_free neutral.current, neutral.resumed_eq,
      finish_of_free neutral.current, (tracks_feedAll lines).count]
  · rw [feedAll_concat] at ends ⊢
    exact ⟨isMovable_of_open isOpen, isNeutral_of_closed isOpen ends⟩

def closedFunction : List Text := ["/* \x7d", "*/", "function f() \x7b", "// \x7b \x7d \x7d"]

def variableAndClass : List Text := ["let a", "class A", "\x7b"]

theorem finish_from_neutral_closedFunction :
    (feedAll {} closedFunction).IsNeutral ∧
    (feedAll {} (closedFunction ++ variableAndClass)).finish =
      (feedAll {} closedFunction).finish ++ (feedAll {} variableAndClass).finish.map (·.moved 4) := by
  have neutral : (feedAll {} closedFunction).IsNeutral := ⟨by decide, by decide, by decide⟩
  exact ⟨neutral, finish_from_neutral.1 closedFunction variableAndClass neutral⟩

end Scanner
end ScriptSplit
