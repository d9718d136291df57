import ScriptSplit.Proofs.Scanner.Segmented
import ScriptSplit.Proofs.Text.Cutting
import ScriptSplit.Proofs.Text.Lines

namespace ScriptSplit

theorem Text.infix_of_nonBlank? {text name : Text} (h : nonBlank? text = some name) : name <:+: text := by
  unfold nonBlank? at h
  split at h
  · cases h
  · cases h
    exact trim_infix text

namespace Element

variable {text name : Text}

theorem infix_of_functionName? (h : functionName? text = some name) : name <:+: text := by
  obtain ⟨⟨first, rest⟩, found, named⟩ := Option.bind_eq_some_iff.mp h
  exact ((Text.infix_of_nonBlank? named).trans (List.takeWhile_prefix _).isInfix).trans
    (Text.suffix_of_cut found).isInfix

theorem infix_of_className? (h : className? text = some name) : name <:+: text := by
  obtain ⟨rest, found, named⟩ := Option.bind_eq_some_iff.mp h
  have inRest := (Text.before_prefix (rest.takeWhile (· ≠ '\x7b')) "extends").trans (List.takeWhile_prefix _)
  exact ((Text.infix_of_nonBlank? named).trans inRest.isInfix).trans (Text.suffix_of_after? found).isInfix

theorem infix_of_variableName? (h : variableName? text = some name) : name <:+: text := by
  obtain ⟨⟨first, rest⟩, found, named⟩ := Option.bind_eq_some_iff.mp h
  obtain ⟨keyword, -, cut⟩ := List.exists_of_findSome?_eq_some found
  have inRest := (List.takeWhile_prefix (l := rest.takeWhile (· ≠ '=')) (· ≠ ';')).trans
    (List.takeWhile_prefix _)
  exact ((Text.infix_of_nonBlank? named).trans inRest.isInfix).trans (Text.suffix_of_cut cut).isInfix

end Element

theorem Declares.infix {text name : Text} {kind : Kind} (h : Declares text kind name) : name <:+: text := by
  cases kind with
  | functionDecl => exact Element.infix_of_functionName? h.reads.2
  | classDecl => exact Element.infix_of_className? h.reads.2
  | importDecl => exact h.reads.2 ▸ List.infix_rfl
  | variableDecl => exact Element.infix_of_variableName? h.reads.2

theorem exists_line_of_mem_scan {source : Text} {element : Element} (found : element ∈ scan source) :
    ∃ line ∈ source.lines, element.name <:+: line := by
  obtain ⟨first, -, ⟨line, there, -, -, declares⟩, -⟩ :=
    (Scanner.segmented_feedAll source.lines).exists_isSegment found
  exact ⟨line, List.mem_of_getElem? there, declares.infix.trans (Text.trim_infix line)⟩

/-! ## What the opening line says of a name -/

structure Text.Tight (text : Text) : Prop where
  nonempty : text ≠ []
  first : ∀ c ∈ text.head?, isBlank c = false
  last : ∀ c ∈ text.getLast?, isBlank c = false

def Kind.Names (text name : Text) : Kind → Prop
  | .importDecl => name = text
  | .functionDecl => '(' ∉ name ∧ ∃ before inner rest, text.FirstCut "function " before (inner ++ rest) ∧
      '(' ∉ inner ∧ (∀ c ∈ rest.head?, c = '(') ∧ name = inner.trim
  | .classDecl => '{' ∉ name ∧ ¬ "extends".toList <:+: name
  | .variableDecl => '=' ∉ name ∧ ';' ∉ name

namespace Text

variable {text name : Text}

theorem tight_trim (nonempty : text.trim ≠ []) : text.trim.Tight :=
  ⟨nonempty, fun _ => of_mem_head?_stripWhere, fun _ => of_mem_getLast?_stripWhere⟩

theorem nonBlank?_eq_some_iff : nonBlank? text = some name ↔ text.trim = name ∧ name ≠ [] := by
  unfold nonBlank?
  split
  · next blank =>
      refine ⟨nofun, ?_⟩
      rintro ⟨rfl, nonempty⟩
      exact absurd (List.isEmpty_iff.mp blank) nonempty
  · next nonBlank =>
      rw [Option.some.injEq]
      refine ⟨?_, And.left⟩
      rintro rfl
      exact ⟨rfl, fun empty => nonBlank (List.isEmpty_iff.mpr empty)⟩

theorem tight_of_nonBlank? (h : nonBlank? text = some name) : name.Tight := by
  obtain ⟨rfl, nonempty⟩ := nonBlank?_eq_some_iff.mp h
  exact tight_trim nonempty

theorem tight_of_bind {α : Type} {found : Option α} {part : α → Text}
    (h : (found.bind fun parts => nonBlank? (part parts)) = some name) : name.Tight := by
  obtain ⟨parts, -, named⟩ := Option.bind_eq_some_iff.mp h
  exact tight_of_nonBlank? named

theorem not_mem_takeWhile_ne (c : Char) (text : Text) : c ∉ text.takeWhile (· ≠ c) := fun member => by
  have holds := List.mem_takeWhile_imp member
  simp at holds

theorem not_mem_of_nonBlank? {c : Char} (h : nonBlank? text = some name) (absent : c ∉ text) : c ∉ name :=
  fun member => absent ((infix_of_nonBlank? h).subset member)

end Text

namespace Element

variable {text name : Text}

theorem names_of_functionName? (h : functionName? text = some name) : Kind.functionDecl.Names text name := by
  obtain ⟨⟨before, after⟩, found, named⟩ := Option.bind_eq_some_iff.mp h
  have outside := Text.not_mem_takeWhile_ne '(' after
  refine ⟨Text.not_mem_of_nonBlank? named outside, before, after.takeWhile (· ≠ '('), after.dropWhile (· ≠ '('),
    ?_, outside, fun c first => ?_, (Text.nonBlank?_eq_some_iff.mp named).1.symm⟩
  · rw [List.takeWhile_append_dropWhile]
    exact Text.firstCut_of_cut found
  · have stops := Text.of_mem_head?_dropWhile first
    simpa using stops

theorem names_of_className? (h : className? text = some name) : Kind.classDecl.Names text name := by
  obtain ⟨rest, -, named⟩ := Option.bind_eq_some_iff.mp h
  have part := Text.infix_of_nonBlank? named
  constructor
  · intro member
    have inRest := (Text.before_prefix _ _).subset (part.subset member)
    exact Text.not_mem_takeWhile_ne _ rest inRest
  · intro found
    exact Text.absent_from_before _ (by decide) (found.trans part)

theorem names_of_variableName? (h : variableName? text = some name) : Kind.variableDecl.Names text name := by
  obtain ⟨⟨before, rest⟩, -, named⟩ := Option.bind_eq_some_iff.mp h
  constructor
  · refine Text.not_mem_of_nonBlank? named fun member => ?_
    exact Text.not_mem_takeWhile_ne '=' rest ((List.takeWhile_prefix _).subset member)
  · exact Text.not_mem_of_nonBlank? named (Text.not_mem_takeWhile_ne ';' _)

end Element

theorem Declares.names {text name : Text} {kind : Kind} (h : Declares text kind name) : kind.Names text name := by
  cases kind with
  | functionDecl => exact Element.names_of_functionName? h.reads.2
  | classDecl => exact Element.names_of_className? h.reads.2
  | importDecl => exact h.reads.2.symm
  | variableDecl => exact Element.names_of_variableName? h.reads.2

theorem Declares.tight {line name : Text} {kind : Kind} (h : Declares line.trim kind name) : name.Tight := by
  cases kind with
  | functionDecl => exact Text.tight_of_bind h.reads.2
  | classDecl => exact Text.tight_of_bind h.reads.2
  | importDecl => exact h.reads.2 ▸ Text.tight_trim h.nonempty
  | variableDecl => exact Text.tight_of_bind h.reads.2

/-- The name is one line without blanks at its ends, and the first line of the element, on which no comment
begins or ends, gives it as the kind says. -/
structure Element.WellNamed (element : Element) : Prop where
  tight : element.name.Tight
  oneLine : '\n' ∉ element.name
  opening : ∃ line rest, element.lines = line :: rest ∧ element.name <:+: line ∧
    element.kind.Names line.trim element.name ∧ ¬ "/*".toList <:+: line ∧ ¬ "*/".toList <:+: line

theorem unmarked_of_not_isComment {lines : List Text} {position : Nat} {line : Text}
    (there : lines[position]? = some line) (code : isComment lines position = false) :
    ¬ "/*".toList <:+: line ∧ ¬ "*/".toList <:+: line := by
  simp only [isComment, there] at code
  obtain ⟨unmarked, -⟩ := Bool.or_eq_false_iff.mp code
  obtain ⟨closes, opens⟩ := Bool.or_eq_false_iff.mp unmarked
  rw [← Text.contains_iff_infix, ← Text.contains_iff_infix, opens, closes]
  exact ⟨Bool.false_ne_true, Bool.false_ne_true⟩

theorem IsSegment.wellNamed {source : Text} {element : Element} {first : Nat}
    (h : IsSegment source.lines element first) : element.WellNamed := by
  obtain ⟨-, ⟨line, there, code, -, declares⟩, last, ends, own⟩ := h
  have part := declares.infix.trans (Text.trim_infix line)
  refine ⟨declares.tight, fun member => ?_, ?_⟩
  · exact Text.not_mem_of_mem_lines (List.mem_of_getElem? there) (part.subset member)
  · obtain ⟨inside, rfl⟩ := List.getElem?_eq_some_iff.mp there
    have reaches : first ≤ last := by
      cases ends with
      | single shared => exact Nat.le_refl first
      | closing movable after closes least => exact after.le
      | unclosed movable isLast never => omega
    have extent : last + 1 - first = last - first + 1 := by omega
    rw [List.drop_eq_getElem_cons inside, extent, List.take_succ_cons] at own
    exact ⟨_, _, own, part, declares.names, unmarked_of_not_isComment there code⟩

theorem wellNamed_of_mem_scan (source : Text) : ∀ element ∈ scan source, element.WellNamed := by
  intro element found
  obtain ⟨first, segment⟩ := (Scanner.segmented_feedAll source.lines).exists_isSegment found
  exact segment.wellNamed

def namedScript : Text :=
  "/* let c; */\nimport a from 'b';\r\n  const a , b = c;; \r\nasync function  draw (x) \x7b\r\n\x7d\r\nclass Car  extends Base\x7b"

def namedElements : List Element :=
  [⟨.importDecl, "import a from 'b';", ["import a from 'b';\r"], 2⟩,
    ⟨.variableDecl, "a , b", ["  const a , b = c;; \r"], 3⟩,
    ⟨.functionDecl, "draw", ["async function  draw (x) \x7b\r", "\x7d\r"], 4⟩,
    ⟨.classDecl, "Car", ["class Car  extends Base\x7b"], 6⟩]

theorem wellNamed_of_mem_scan_namedScript :
    scan namedScript = namedElements ∧ ∀ element ∈ namedElements, element.WellNamed := by
  have scanned : scan namedScript = namedElements := by decide +kernel
  refine ⟨scanned, fun element member => wellNamed_of_mem_scan namedScript element ?_⟩
  rwa [scanned]

end ScriptSplit
