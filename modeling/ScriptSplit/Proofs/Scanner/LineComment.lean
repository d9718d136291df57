import ScriptSplit.Proofs.Scanner.Segmented
import ScriptSplit.Proofs.Text.Cutting
import ScriptSplit.Proofs.Text.Pieces

namespace ScriptSplit

def IsLineComment (line : Text) : Prop := "//".toList <+: line.trim

instance (line : Text) : Decidable (IsLineComment line) := inferInstanceAs (Decidable (_ <+: _))

theorem opening?_of_isLineComment {line : Text} (h : IsLineComment line) : Element.opening? line.trim = none :=
  if_pos (Bool.or_eq_true_iff.mpr (Or.inr (isSome_after?_iff.mpr h)))

def Element.delayed (count : Nat) (element : Element) : Element :=
  if count < element.startLine then { element with startLine := element.startLine + 1 } else element

theorem Element.delayed_of_le {count : Nat} {element : Element} (before : element.startLine ≤ count) :
    element.delayed count = element :=
  if_neg before.not_gt

theorem Element.delayed_moved {element : Element} (first : 0 < element.startLine) (count : Nat) :
    (element.moved count).delayed count = element.moved (count + 1) := by
  have later : count < (element.moved count).startLine := Nat.lt_add_of_pos_right first
  rw [delayed, if_pos later]
  simp only [moved, Nat.add_right_comm]

namespace Scanner

variable {scanner other : Scanner} {line comment : Text}

theorem feed_isLineComment (h : IsLineComment comment) (free : scanner.current = none) :
    (scanner.feed comment).current = none ∧ (scanner.feed comment).elements = scanner.elements :=
  feed_of_silent (opening?_of_isLineComment h) free

def LeavesAlone (line : Text) : Prop :=
  line.contains "*/" = true ∨ line.contains "/*" = false ∧ line.count '\x7b' = line.count '\x7d'

theorem resumed_feed_iff (outside : scanner.inComment = false) (line : Text) :
    (scanner.feed line).resumed = scanner.resumed ↔ LeavesAlone line := by
  have paired : balance line = 0 ↔ line.count '\x7b' = line.count '\x7d' := by
    rw [balance]
    omega
  simp only [resumed, depth_feed, inComment_feed, skips, isMarked, commentAfter, LeavesAlone, outside,
    Bool.or_false, mk.injEq, and_true]
  cases line.contains "*/" with
  | true => simp
  | false =>
      cases line.contains "/*" with
      | true => simp
      | false => simp [paired]

theorem startLine_pos_feed (h : ∀ element ∈ scanner.finish, 0 < element.startLine) (line : Text) :
    ∀ element ∈ (scanner.feed line).finish, 0 < element.startLine := by
  cases now : scanner.current with
  | some element =>
      rw [finish_of_current now] at h
      rw [finish_feed_of_open now, List.forall_mem_append, List.forall_mem_singleton]
      exact ⟨fun earlier member => h earlier (List.mem_append_left _ member),
        h element (List.mem_append_right _ List.mem_cons_self)⟩
  | none =>
      rw [finish_of_free now] at h
      rcases finish_feed_of_free now line with same | ⟨kind, name, found⟩
      · rwa [same]
      · rw [found, List.forall_mem_append, List.forall_mem_singleton]
        exact ⟨h, Nat.succ_pos _⟩

theorem startLine_pos_feedAll (h : ∀ element ∈ scanner.finish, 0 < element.startLine) (later : List Text) :
    ∀ element ∈ (scanner.feedAll later).finish, 0 < element.startLine := by
  induction later generalizing scanner with
  | nil => exact h
  | cons line rest ih => exact ih (startLine_pos_feed h line)

theorem finish_feedAll_feed_comment {lines : List Text} (h : IsLineComment comment)
    (free : (feedAll {} lines).current = none)
    (same : ((feedAll {} lines).feed comment).resumed = (feedAll {} lines).resumed) (later : List Text) :
    (((feedAll {} lines).feed comment).feedAll later).finish =
      ((feedAll {} lines).feedAll later).finish.map (·.delayed lines.length) := by
  have tracks := tracks_feedAll lines
  obtain ⟨freeAfter, sameElements⟩ := feed_isLineComment h free
  rw [finish_feedAll_of_free free, finish_feedAll_of_free freeAfter, same, sameElements, lineNumber_feed,
    tracks.count, List.map_append, List.map_map]
  congr 1
  · have stay : ∀ element ∈ (feedAll {} lines).elements, element.delayed lines.length = element := by
      intro element member
      have stands := tracks.laid.standing element (List.mem_append_left _ member)
      exact Element.delayed_of_le ((Nat.le_add_right _ _).trans stands.endLine_le)
    rw [List.map_congr_left stay, List.map_id']
  · refine List.map_congr_left fun element member => (Element.delayed_moved ?_ lines.length).symm
    exact startLine_pos_feedAll (by simp [finish, resumed]) later element member

def leveller (depth : Int) : Text :=
  "//".toList ++ List.replicate depth.toNat '\x7d' ++ List.replicate (-depth).toNat '\x7b'

theorem mem_leveller {depth : Int} {c : Char} (member : c ∈ leveller depth) : c ∈ ['/', '\x7d', '\x7b'] := by
  simp only [leveller, List.mem_append, List.mem_replicate] at member
  rcases member with (slash | ⟨-, rfl⟩) | ⟨-, rfl⟩
  · have : c = '/' := by simpa using slash
    simp [this]
  · simp
  · simp

theorem isLineComment_leveller (depth : Int) : IsLineComment (leveller depth) := by
  have solid : ['/', '\x7d', '\x7b'].any Text.isBlank = false := by decide
  have trimmed : (leveller depth).trim = leveller depth :=
    Text.stripWhere_of_forall fun c member =>
      Bool.eq_false_iff.mpr (List.any_eq_false.mp solid c (mem_leveller member))
  rw [IsLineComment, trimmed, leveller, List.append_assoc]
  exact List.prefix_append _ _

theorem isMarked_leveller (depth : Int) : isMarked (leveller depth) = false := by
  have star (key : Text) (inKey : '*' ∈ key) : (leveller depth).contains key = false := by
    refine Bool.eq_false_iff.mpr fun found => ?_
    have member := (Text.contains_iff_infix.mp found).subset inKey
    simpa using mem_leveller member
  rw [isMarked, star "*/" (by decide), star "/*" (by decide), Bool.or_false]

theorem balance_leveller (depth : Int) : balance (leveller depth) = -depth := by
  simp [balance, leveller, List.count_append, List.count_replicate]
  omega

def probe : Text := "let x"

theorem length_finish_feed_probe (free : scanner.current = none) : (scanner.feed probe).finish.length =
    scanner.elements.length + if scanner.inComment = false ∧ scanner.depth = 0 then 1 else 0 := by
  have unmarked : isMarked probe = false := by decide
  have declares : Element.opening? probe.trim = some (Kind.variableDecl, "x".toList) := by decide
  have step := step_feed scanner probe
  generalize scanner.feed probe = after at step ⊢
  cases step with
  | comment skipped =>
      have inside : scanner.inComment = true := by rwa [skips, unmarked, Bool.false_or] at skipped
      simp [finish, free, inside]
  | within code isOpen stays => cases free.symm.trans isOpen
  | closing code isOpen level deep => cases free.symm.trans isOpen
  | opening code free' level reads movable =>
      cases declares.symm.trans reads
      cases movable
  | single code free' level reads shared =>
      simp [finish, free, level, (skips_eq_false_iff.mp code).2]
  | idle code free' silent =>
      have deep : scanner.depth ≠ 0 := fun level => by cases declares.symm.trans (silent level)
      simp [finish, free, deep]

theorem length_finish_probed (free : scanner.current = none) (depth : Int) :
    (scanner.feedAll [leveller depth, probe]).finish.length =
      scanner.elements.length + if scanner.inComment = false ∧ scanner.depth = depth then 1 else 0 := by
  obtain ⟨freeAfter, same⟩ := feed_isLineComment (isLineComment_leveller depth) free
  have counted := length_finish_feed_probe freeAfter
  rw [same, depth_feed, inComment_feed, commentAfter_of_unmarked (isMarked_leveller depth), skips,
    isMarked_leveller, balance_leveller] at counted
  refine counted.trans (congrArg _ (if_congr (and_congr_right fun outside => ?_) rfl rfl))
  rw [outside]
  simp [← sub_eq_add_neg, sub_eq_zero]

theorem resumed_eq_of_length_finish (free : scanner.current = none) (freeOther : other.current = none)
    (outside : scanner.inComment = false) (sameCount : other.elements.length = scanner.elements.length)
    (same : ∀ later, (other.feedAll later).finish.length = (scanner.feedAll later).finish.length) :
    other.resumed = scanner.resumed := by
  have alike : other.inComment = false ∧ other.depth = scanner.depth := by
    by_contra differs
    have counted := same [leveller scanner.depth, probe]
    rw [length_finish_probed free, length_finish_probed freeOther, sameCount, if_neg differs] at counted
    simp [outside] at counted
  rw [resumed, resumed, alike.1, alike.2, outside]

/-- With nothing open, and outside block comments, a line comment can be left out of every script without a
change of what is found, line numbers apart, if and only if it closes a block comment or else opens none and has
its brackets in pairs. -/
theorem finish_without_comment_iff {lines : List Text} {comment : Text} (h : IsLineComment comment)
    (free : (feedAll {} lines).current = none) (outside : (feedAll {} lines).inComment = false) :
    (∀ later, (feedAll {} (lines ++ [comment] ++ later)).finish =
      (feedAll {} (lines ++ later)).finish.map (·.delayed lines.length)) ↔
    comment.contains "*/" = true ∨
      comment.contains "/*" = false ∧ comment.count '\x7b' = comment.count '\x7d' := by
  obtain ⟨freeAfter, sameElements⟩ := feed_isLineComment h free
  have onward (later : List Text) : feedAll {} (lines ++ [comment] ++ later) =
      ((feedAll {} lines).feed comment).feedAll later := by
    rw [feedAll_append, feedAll_concat]
  simp only [onward, feedAll_append]
  refine Iff.trans ⟨fun same => ?_, finish_feedAll_feed_comment h free⟩ (resumed_feed_iff outside comment)
  refine resumed_eq_of_length_finish free freeAfter outside (congrArg List.length sameElements) fun later => ?_
  rw [same later, List.length_map]

def strayBracket : List Text := ["\x7d"]

def endingComment : Text := "// \x7b */"

theorem finish_without_comment_iff_endingComment :
    IsLineComment endingComment ∧ (feedAll {} strayBracket).current = none ∧
    (feedAll {} strayBracket).inComment = false ∧
    ∀ later, (feedAll {} (strayBracket ++ [endingComment] ++ later)).finish =
      (feedAll {} (strayBracket ++ later)).finish.map (·.delayed 1) := by
  have h : IsLineComment endingComment := by decide
  have free : (feedAll {} strayBracket).current = none := by decide
  have outside : (feedAll {} strayBracket).inComment = false := by decide
  exact ⟨h, free, outside, (finish_without_comment_iff h free outside).mpr (Or.inl (by decide))⟩

def bracketComment : Text := "// \x7b"

def plainFunction : List Text := ["function f() \x7b", "\x7d"]

/-- After a line comment with an opening bracket a function is not found. -/
theorem finish_bracketComment :
    IsLineComment bracketComment ∧ (feedAll {} []).current = none ∧ (feedAll {} []).inComment = false ∧
    (feedAll {} ([] ++ [bracketComment] ++ plainFunction)).finish = [] ∧
    (feedAll {} ([] ++ [bracketComment] ++ plainFunction)).finish ≠
      (feedAll {} ([] ++ plainFunction)).finish.map (·.delayed 0) := by
  decide +kernel

end Scanner
end ScriptSplit
