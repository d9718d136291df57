import ScriptSplit.Proofs.Scanner.Slices
import ScriptSplit.Proofs.Text.Cutting
import ScriptSplit.Proofs.Text.Lines
import Mathlib.Data.List.Forall2

namespace ScriptSplit

namespace Element

def erase (element : Element) : Element := { element with lines := element.lines.map fun _ => [] }

@[simp] theorem erase_erase (element : Element) : element.erase.erase = element.erase := by
  simp [erase]

@[simp] theorem erase_push (element : Element) (line : Text) :
    (element.push line).erase = element.erase.push [] := by
  simp [erase, push]

def placedIn (lines : List Text) (element : Element) : Element :=
  { element with lines := (lines.drop (element.startLine - 1)).take element.lineCount }

theorem placedIn_erase (lines : List Text) (element : Element) :
    element.erase.placedIn lines = element.placedIn lines := by
  simp [placedIn, erase, lineCount]

variable {lines : List Text} {element : Element}

theorem StandsIn.placedIn_eq (h : element.StandsIn lines) : element.placedIn lines = element := by
  have span : element.endLine + 1 - element.startLine = element.lineCount := by
    rw [h.endLine_eq, Nat.add_sub_cancel_left, lineCount]
  rw [placedIn, ← span, ← h.verbatim]

theorem StandsIn.lineCount_placedIn (h : element.StandsIn lines) {others : List Text}
    (sameLength : others.length = lines.length) : (element.placedIn others).lineCount = element.lineCount := by
  obtain ⟨before, after, rfl, first⟩ := h.placed
  simp only [List.length_append] at sameLength
  simp only [placedIn, lineCount, List.length_take, List.length_drop]
  omega

end Element

namespace Scanner

structure Alike (line other : Text) : Prop where
  closes : other.contains "*/" = line.contains "*/"
  opens : other.contains "/*" = line.contains "/*"
  balance : Scanner.balance other = Scanner.balance line
  trim : other.trim = line.trim

theorem Alike.refl (line : Text) : Alike line line := ⟨rfl, rfl, rfl, rfl⟩

theorem alike_of_padded {line padded : Text} (h : Text.Padded line padded) : Alike line padded where
  closes := h.contains_eq (by decide) (by decide)
  opens := h.contains_eq (by decide) (by decide)
  balance := by rw [Scanner.balance, Scanner.balance, h.count_eq (by decide), h.count_eq (by decide)]
  trim := h.trim_eq

def erase (scanner : Scanner) : Scanner :=
  { scanner with current := scanner.current.map Element.erase, elements := scanner.elements.map Element.erase }

theorem finish_erase (scanner : Scanner) : scanner.erase.finish = scanner.finish.map Element.erase := by
  cases now : scanner.current <;> simp [finish, erase, now]

variable {line other : Text}

theorem feedCode_erase (alike : Alike line other) (scanner : Scanner) :
    (scanner.feedCode line).erase = (scanner.erase.feedCode other).erase := by
  cases now : scanner.current with
  | some element =>
      simp only [feedCode, erase, now, Option.map_some, alike.balance]
      split <;> simp [Function.comp_def]
  | none =>
      simp only [feedCode, start, erase, now, Option.map_none, alike.balance, alike.trim]
      split
      · cases reads : Element.opening? line.trim with
        | none => simp [Function.comp_def]
        | some declaration =>
            obtain ⟨kind, name⟩ := declaration
            cases movable : kind.isMovable <;> simp [movable, Element.erase, Function.comp_def]
      · simp [Function.comp_def]

theorem feed_erase (alike : Alike line other) (scanner : Scanner) :
    (scanner.feed line).erase = (scanner.erase.feed other).erase := by
  have same : scanner.erase.skips other = scanner.skips line := by
    simp only [skips, isMarked, alike.closes, alike.opens, erase]
  cases code : scanner.skips line with
  | true =>
      rw [feed_of_skips code, feed_of_skips (same.trans code)]
      simp only [erase, commentAfter, alike.closes, alike.opens, Option.map_map, List.map_map,
        Function.comp_def, Element.erase_push, Element.erase_erase]
  | false =>
      rw [feed_of_code code, feed_of_code (same.trans code)]
      exact feedCode_erase alike { scanner with lineNumber := scanner.lineNumber + 1 }

theorem feedAll_erase {lines others : List Text} (alike : List.Forall₂ Alike lines others) {scanner twin : Scanner}
    (same : scanner.erase = twin.erase) : (scanner.feedAll lines).erase = (twin.feedAll others).erase := by
  induction alike generalizing scanner twin with
  | nil => exact same
  | @cons line other rest later first _ ih =>
      refine ih ?_
      calc (scanner.feed line).erase
        _ = (scanner.erase.feed other).erase := feed_erase first scanner
        _ = (twin.erase.feed other).erase := by rw [same]
        _ = (twin.feed other).erase := (feed_erase (.refl other) twin).symm

section SideBySide

variable {lines others : List Text} (alike : List.Forall₂ Alike lines others)

include alike

theorem map_erase_finish : (feedAll {} others).finish.map Element.erase =
    (feedAll {} lines).finish.map Element.erase := by
  rw [← finish_erase, ← finish_erase, feedAll_erase alike rfl]

theorem finish_eq_map_placedIn :
    (feedAll {} others).finish = (feedAll {} lines).finish.map (·.placedIn others) := by
  have standing := (tracks_feedAll others).laid.standing
  have forgets : (Element.placedIn others) ∘ Element.erase = Element.placedIn others :=
    funext (Element.placedIn_erase others)
  calc (feedAll {} others).finish
    _ = (feedAll {} others).finish.map (Element.placedIn others) := by
        rw [List.map_congr_left fun element member => (standing element member).placedIn_eq, List.map_id']
    _ = ((feedAll {} others).finish.map Element.erase).map (Element.placedIn others) := by
        rw [List.map_map, forgets]
    _ = ((feedAll {} lines).finish.map Element.erase).map (Element.placedIn others) := by
        rw [map_erase_finish alike]
    _ = (feedAll {} lines).finish.map (Element.placedIn others) := by rw [List.map_map, forgets]

end SideBySide

theorem padded_lines_withReturns (source : Text) :
    List.Forall₂ Text.Padded source.lines source.withReturns.lines := by
  rw [Text.lines_withReturns, List.forall₂_iff_get]
  refine ⟨List.length_mapIdx.symm, fun index inside _ => ?_⟩
  simp only [List.get_eq_getElem, List.getElem_mapIdx]
  split
  · exact ⟨[], ['\r'], by simp, rfl, rfl⟩
  · exact ⟨[], [], by simp, rfl, rfl⟩

theorem placedIn_withReturns {source : Text} {element : Element} (stands : element.StandsIn source.lines) :
    element.placedIn source.withReturns.lines =
      { element with lines := element.lines.mapIdx fun index line =>
          if element.startLine + index ≤ source.count '\n' then line ++ ['\r'] else line } := by
  have run (index : Nat) : element.lines[index]? =
      if index < element.lineCount then source.lines[element.startLine - 1 + index]? else none := by
    conv_lhs => rw [← stands.placedIn_eq]
    rw [Element.placedIn, List.getElem?_take, List.getElem?_drop]
  have shifted (index : Nat) : element.startLine - 1 + index < source.count '\n' ↔
      element.startLine + index ≤ source.count '\n' := by
    have := stands.startLine_pos
    omega
  suffices same : (element.placedIn source.withReturns.lines).lines = element.lines.mapIdx fun index line =>
      if element.startLine + index ≤ source.count '\n' then line ++ ['\r'] else line by
    rw [← same, Element.placedIn]
  refine List.ext_getElem? fun index => ?_
  rw [Element.placedIn, Text.lines_withReturns, List.getElem?_take, List.getElem?_drop, List.getElem?_mapIdx,
    List.getElem?_mapIdx, run]
  simp only [shifted]
  split <;> rfl

theorem finish_of_padded :
    (∀ lines padded : List Text, List.Forall₂ Text.Padded lines padded →
      (∀ count, (feedAll {} (padded.take count)).depth = (feedAll {} (lines.take count)).depth ∧
        (feedAll {} (padded.take count)).elements.length = (feedAll {} (lines.take count)).elements.length ∧
        (feedAll {} (padded.take count)).finish.length = (feedAll {} (lines.take count)).finish.length) ∧
      (feedAll {} padded).finish = (feedAll {} lines).finish.map (·.placedIn padded) ∧
      ∀ element ∈ (feedAll {} lines).finish, element.placedIn lines = element ∧
        (element.placedIn padded).lineCount = element.lineCount) ∧
    ∀ source : Text, scan source.withReturns = (scan source).map fun element =>
      { element with lines := element.lines.mapIdx fun index line =>
          if element.startLine + index ≤ source.count '\n' then line ++ ['\r'] else line } := by
  refine ⟨fun lines padded wraps => ?_, fun source => ?_⟩
  · have alike : List.Forall₂ Alike lines padded := wraps.imp fun _ _ => alike_of_padded
    refine ⟨fun count => ?_, finish_eq_map_placedIn alike, fun element member => ?_⟩
    · have alikeSoFar := List.forall₂_take count alike
      have same := feedAll_erase alikeSoFar (rfl : erase {} = erase {})
      have ended := congrArg (fun scanner => scanner.elements.length) same
      have found := congrArg List.length (map_erase_finish alikeSoFar)
      simp only [erase, List.length_map] at ended found
      exact ⟨(congrArg depth same).symm, ended.symm, found⟩
    · have stands := (tracks_feedAll lines).laid.standing element member
      exact ⟨stands.placedIn_eq, stands.lineCount_placedIn wraps.length_eq.symm⟩
  · have alike : List.Forall₂ Alike source.lines source.withReturns.lines :=
      (padded_lines_withReturns source).imp fun _ _ => alike_of_padded
    rw [scan, finish_eq_map_placedIn alike]
    exact List.map_congr_left fun element member => placedIn_withReturns ((laid_scan source).standing element member)

def plainLines : List Text := ["function f() \x7b", "/* \x7d */", "\x7d"]

def wideLines : List Text := ["\tfunction f() \x7b ", "\u2003/* \x7d */", "\u3000\x7d\r"]

theorem finish_of_padded_wideLines :
    List.Forall₂ Text.Padded plainLines wideLines ∧
    (feedAll {} wideLines).finish = (feedAll {} plainLines).finish.map (·.placedIn wideLines) :=
  have wraps : List.Forall₂ Text.Padded plainLines wideLines :=
    .cons ⟨"\t", " ", rfl, rfl, rfl⟩
      (.cons ⟨"\u2003", [], rfl, rfl, rfl⟩ (.cons ⟨"\u3000", "\r", rfl, rfl, rfl⟩ .nil))
  ⟨wraps, (finish_of_padded.1 plainLines wideLines wraps).2.1⟩

end Scanner
end ScriptSplit
