import ScriptSplit.Proofs.Scanner.Slices
import Mathlib.Algebra.BigOperators.Group.Finset.Basic
import Mathlib.Data.List.Sort

/-!
# The segmentation of lines

Which lines make up which elements, said about the lines as a whole: which of them are comment lines, how deep
each begins, which open a declaration and which close one. Lines are at positions counted from 0; the line at
position `p` has the number `p + 1`.

`IsSegmentation` leaves no choice (`IsSegmentation.unique`): whether an element is there depends only on those
that start earlier.
-/

namespace ScriptSplit

def commentOpen (lines : List Text) : Bool :=
  (lines.filter Scanner.isMarked).getLast?.any fun line => line.contains "/*" && !line.contains "*/"

def isComment (lines : List Text) (position : Nat) : Bool :=
  match lines[position]? with
  | none => false
  | some line => Scanner.isMarked line || commentOpen (lines.take position)

def weight (lines : List Text) (position : Nat) : Int :=
  if isComment lines position then 0 else Scanner.balance (lines.getD position [])

def depthAt (lines : List Text) (position : Nat) : Int :=
  ∑ earlier ∈ Finset.range position, weight lines earlier

def ReadsAs (text name : Text) : Kind → Prop
  | .functionDecl => text.contains "function " = true ∧ Element.functionName? text = some name
  | .classDecl => "class ".toList <+: text ∧ Element.className? text = some name
  | .importDecl => "import ".toList <+: text ∧ text = name
  | .variableDecl => (∃ keyword ∈ Element.variableKeywords, text.contains keyword = true) ∧
      Element.variableName? text = some name

def Kind.rank : Kind → Nat
  | .functionDecl => 0
  | .classDecl => 1
  | .importDecl => 2
  | .variableDecl => 3

structure Declares (text : Text) (kind : Kind) (name : Text) : Prop where
  nonempty : text ≠ []
  noComment : ¬ "//".toList <+: text
  reads : ReadsAs text name kind
  first : ∀ other, other.rank < kind.rank → ∀ name, ¬ ReadsAs text name other

def Opens (lines : List Text) (position : Nat) (kind : Kind) (name : Text) : Prop :=
  ∃ line, lines[position]? = some line ∧ isComment lines position = false ∧ depthAt lines position = 0 ∧
    Declares line.trim kind name

def Closes (lines : List Text) (position : Nat) : Prop :=
  position < lines.length ∧ isComment lines position = false ∧ depthAt lines (position + 1) = 0 ∧
    0 < depthAt lines position

inductive EndsAt (lines : List Text) (kind : Kind) (first : Nat) : Nat → Prop where
  | single (shared : kind.isMovable = false) : EndsAt lines kind first first
  | closing {last : Nat} (movable : kind.isMovable = true) (after : first < last) (closes : Closes lines last)
      (least : ∀ between, first < between → between < last → ¬ Closes lines between) :
      EndsAt lines kind first last
  | unclosed {last : Nat} (movable : kind.isMovable = true) (isLast : last + 1 = lines.length)
      (never : ∀ later, first < later → ¬ Closes lines later) : EndsAt lines kind first last

def IsSegment (lines : List Text) (element : Element) (first : Nat) : Prop :=
  element.startLine = first + 1 ∧ Opens lines first element.kind element.name ∧
    ∃ last, EndsAt lines element.kind first last ∧
      element.lines = (lines.drop first).take (last + 1 - first)

/-- A function or class that began before a position has not ended before it. -/
def Covers (element : Element) (position : Nat) : Prop :=
  element.isMovable = true ∧ element.startLine < position + 1 ∧ position + 1 ≤ element.endLine

/-- The elements are, in order, those that begin at the positions where a declaration opens and that no
function or class covers. -/
structure IsSegmentation (lines : List Text) (elements : List Element) : Prop where
  ordered : elements.Pairwise fun earlier later => earlier.startLine < later.startLine
  sound : ∀ element ∈ elements, ∃ first, IsSegment lines element first ∧
    ∀ other ∈ elements, ¬ Covers other first
  complete : ∀ position kind name, Opens lines position kind name →
    (∀ element ∈ elements, ¬ Covers element position) → ∃ element ∈ elements, element.startLine = position + 1

theorem isSome_after?_iff {text key : Text} : (text.after? key).isSome = true ↔ key <+: text := by
  rw [Text.after?, ← List.isPrefixOf_iff_prefix]
  split <;> simp_all

theorem contains_of_functionName? {text name : Text} (h : Element.functionName? text = some name) :
    text.contains "function " = true := by
  obtain ⟨parts, found, -⟩ := Option.bind_eq_some_iff.mp h
  rw [Text.contains, found, Option.isSome_some]

theorem prefix_of_className? {text name : Text} (h : Element.className? text = some name) :
    "class ".toList <+: text := by
  obtain ⟨rest, found, -⟩ := Option.bind_eq_some_iff.mp h
  exact isSome_after?_iff.mp (by rw [found, Option.isSome_some])

theorem contains_of_variableName? {text name : Text} (h : Element.variableName? text = some name) :
    ∃ keyword ∈ Element.variableKeywords, text.contains keyword = true := by
  obtain ⟨parts, found, -⟩ := Option.bind_eq_some_iff.mp h
  obtain ⟨keyword, member, cut⟩ := List.exists_of_findSome?_eq_some found
  exact ⟨keyword, member, by rw [Text.contains, cut, Option.isSome_some]⟩

theorem importName?_eq_some_iff {text name : Text} :
    Element.importName? text = some name ↔ "import ".toList <+: text ∧ text = name := by
  rw [Element.importName?, Option.map_eq_some_iff, ← isSome_after?_iff, Option.isSome_iff_exists]
  exact ⟨fun ⟨rest, found, same⟩ => ⟨⟨rest, found⟩, same⟩, fun ⟨⟨rest, found⟩, same⟩ => ⟨rest, found, same⟩⟩

def nameOf? (text : Text) : Kind → Option Text
  | .functionDecl => Element.functionName? text
  | .classDecl => Element.className? text
  | .importDecl => Element.importName? text
  | .variableDecl => Element.variableName? text

theorem readsAs_iff {text name : Text} {kind : Kind} : ReadsAs text name kind ↔ nameOf? text kind = some name := by
  cases kind with
  | functionDecl => exact and_iff_right_of_imp contains_of_functionName?
  | classDecl => exact and_iff_right_of_imp prefix_of_className?
  | importDecl => exact importName?_eq_some_iff.symm
  | variableDecl => exact and_iff_right_of_imp contains_of_variableName?

theorem forall_not_readsAs_iff {text : Text} {kind : Kind} :
    (∀ name, ¬ ReadsAs text name kind) ↔ nameOf? text kind = none := by
  simp only [readsAs_iff, Option.eq_none_iff_forall_ne_some]

theorem Kind.forall_iff {p : Kind → Prop} :
    (∀ kind, p kind) ↔ p .functionDecl ∧ p .classDecl ∧ p .importDecl ∧ p .variableDecl := by
  constructor
  · exact fun h => ⟨h _, h _, h _, h _⟩
  · rintro ⟨function, aClass, anImport, aVariable⟩ kind
    cases kind <;> assumption

theorem opening?_eq_orElse {text : Text} (nonempty : text ≠ []) (noComment : ¬ "//".toList <+: text) :
    Element.opening? text =
      ((nameOf? text .functionDecl).map (Kind.functionDecl, ·)
        <|> (nameOf? text .classDecl).map (Kind.classDecl, ·)
        <|> (nameOf? text .importDecl).map (Kind.importDecl, ·)
        <|> (nameOf? text .variableDecl).map (Kind.variableDecl, ·)) := by
  have goesOn : ¬ (text.isEmpty || (text.after? "//").isSome) = true := by
    rw [Bool.or_eq_true, isSome_after?_iff, List.isEmpty_iff]
    exact not_or.mpr ⟨nonempty, noComment⟩
  exact if_neg goesOn

theorem opening?_eq_some_iff {text name : Text} {kind : Kind} :
    Element.opening? text = some (kind, name) ↔ Declares text kind name := by
  by_cases goesOn : text ≠ [] ∧ ¬ "//".toList <+: text
  · have same : Declares text kind name ↔ nameOf? text kind = some name ∧
        ∀ other : Kind, other.rank < kind.rank → nameOf? text other = none := by
      simp only [← readsAs_iff, ← forall_not_readsAs_iff]
      exact ⟨fun h => ⟨h.reads, h.first⟩, fun h => ⟨goesOn.1, goesOn.2, h.1, h.2⟩⟩
    rw [same, opening?_eq_orElse goesOn.1 goesOn.2, Kind.forall_iff]
    cases kind <;>
      simp [Kind.rank, and_comm, and_left_comm, and_assoc]
  · have stops : (text.isEmpty || (text.after? "//").isSome) = true := by
      rw [Bool.or_eq_true, isSome_after?_iff, List.isEmpty_iff]
      tauto
    rw [Element.opening?, if_pos stops]
    exact ⟨nofun, fun h => absurd ⟨h.nonempty, h.noComment⟩ goesOn⟩

theorem Declares.unique {text name other : Text} {kind otherKind : Kind} (h : Declares text kind name)
    (h' : Declares text otherKind other) : kind = otherKind ∧ name = other := by
  have same := (opening?_eq_some_iff.mpr h).symm.trans (opening?_eq_some_iff.mpr h')
  simpa using same

theorem Opens.unique {lines : List Text} {position : Nat} {kind otherKind : Kind} {name other : Text}
    (h : Opens lines position kind name) (h' : Opens lines position otherKind other) :
    kind = otherKind ∧ name = other := by
  obtain ⟨line, there, -, -, declares⟩ := h
  obtain ⟨same, there', -, -, declares'⟩ := h'
  obtain rfl : line = same := Option.some.inj (there.symm.trans there')
  exact declares.unique declares'

theorem EndsAt.unique {lines : List Text} {kind : Kind} {first last other : Nat}
    (h : EndsAt lines kind first last) (h' : EndsAt lines kind first other) : last = other := by
  cases h with
  | single shared => cases h' <;> simp_all
  | closing movable after closes least =>
      cases h' with
      | single shared => simp_all
      | closing movable' after' closes' least' =>
          rcases Nat.lt_trichotomy last other with less | same | greater
          · exact absurd closes (least' last after less)
          · exact same
          · exact absurd closes' (least other after' greater)
      | unclosed movable' isLast never => exact absurd closes (never last after)
  | unclosed movable isLast never =>
      cases h' with
      | single shared => simp_all
      | closing movable' after' closes' least' => exact absurd closes' (never other after')
      | unclosed movable' isLast' never' => omega

theorem IsSegment.unique {lines : List Text} {element other : Element} {first : Nat}
    (h : IsSegment lines element first) (h' : IsSegment lines other first) : element = other := by
  obtain ⟨kind, name, own, start⟩ := element
  obtain ⟨kind', name', own', start'⟩ := other
  obtain ⟨starts, opens, last, ends, run⟩ := h
  obtain ⟨starts', opens', last', ends', run'⟩ := h'
  obtain ⟨rfl, rfl⟩ := opens.unique opens'
  obtain rfl := ends.unique ends'
  simp_all

theorem IsSegmentation.mem_of_mem {lines : List Text} {elements others : List Element}
    (h : IsSegmentation lines elements) (h' : IsSegmentation lines others) {element : Element}
    (member : element ∈ elements) : element ∈ others := by
  -- Only elements that start earlier can cover a position, so the induction is on the first line.
  induction starts : element.startLine using Nat.strong_induction_on generalizing elements others element with
  | _ number ih =>
      obtain ⟨first, segment, uncovered⟩ := h.sound element member
      have uncovered' : ∀ other ∈ others, ¬ Covers other first := by
        intro other there covers
        have earlier : other.startLine < number := by
          rw [← starts, segment.1]
          exact covers.2.1
        exact uncovered other (ih other.startLine earlier h' h there rfl) covers
      obtain ⟨found, there, same⟩ := h'.complete first _ _ segment.2.1 uncovered'
      obtain ⟨first', segment', -⟩ := h'.sound found there
      obtain rfl : first' = first := by
        have := segment'.1
        omega
      rwa [segment.unique segment']

theorem IsSegmentation.unique {lines : List Text} {elements others : List Element}
    (h : IsSegmentation lines elements) (h' : IsSegmentation lines others) : elements = others := by
  have : Std.Irrefl fun earlier later : Element => earlier.startLine < later.startLine :=
    ⟨fun element => Nat.lt_irrefl _⟩
  have : Std.Antisymm fun earlier later : Element => earlier.startLine < later.startLine :=
    ⟨fun earlier later less greater => absurd less (Nat.lt_asymm greater)⟩
  exact h.ordered.eq_of_mem_iff h'.ordered fun element => ⟨h.mem_of_mem h', h'.mem_of_mem h⟩

end ScriptSplit
