import ScriptSplit.Text.Basic
import Mathlib.Data.List.Basic

namespace ScriptSplit.Text

/-- What stands between line feeds, where one at the end of the text begins nothing. -/
def pieces (text : Text) : List Text :=
  if text.isEmpty then []
  else (if text.getLast? = some '\n' then text.dropLast else text).splitOn '\n'

theorem lines_eq_pieces (text : Text) : text.lines = text.pieces := by
  induction text with
  | nil => rfl
  | cons c rest ih =>
      cases rest with
      | nil =>
          by_cases feed : c = '\n'
          · simp [lines, pieces, feed]
          · simp [lines, pieces, feed, List.splitOn_cons_eq_if_modifyHead]
      | cons d later =>
          -- The last character is the same with and without `c`, so both sides strip alike.
          have strip : (if (c :: d :: later).getLast? = some '\n' then (c :: d :: later).dropLast
                else c :: d :: later) =
              c :: (if (d :: later).getLast? = some '\n' then (d :: later).dropLast else d :: later) := by
            rw [List.getLast?_cons_cons, List.dropLast_cons_cons]
            split <;> rfl
          have tail : pieces (d :: later) =
              (if (d :: later).getLast? = some '\n' then (d :: later).dropLast else d :: later).splitOn '\n' :=
            rfl
          have nonempty : pieces (d :: later) ≠ [] := tail ▸ List.splitOn_ne_nil _ _
          have whole : pieces (c :: d :: later) =
              if c = '\n' then [] :: pieces (d :: later) else (pieces (d :: later)).modifyHead (c :: ·) := by
            rw [tail, pieces, strip, if_neg (by simp), List.splitOn_cons_eq_if_modifyHead]
            simp only [beq_iff_eq]
          rw [lines, ih, whole]
          split
          · rfl
          · cases found : pieces (d :: later) with
            | nil => exact absurd found nonempty
            | cons line after => rfl

theorem not_mem_of_mem_lines {text line : Text} (h : line ∈ text.lines) : '\n' ∉ line := by
  induction text generalizing line with
  | nil => cases h
  | cons c rest ih =>
      rw [lines] at h
      split at h
      · rcases List.mem_cons.mp h with rfl | later
        · exact List.not_mem_nil
        · exact ih later
      · next other =>
          cases found : lines rest with
          | nil =>
              rw [found] at h
              obtain rfl := List.mem_singleton.mp h
              simpa using Ne.symm other
          | cons first after =>
              rw [found] at h
              rcases List.mem_cons.mp h with rfl | later
              · have := ih (found ▸ List.mem_cons_self)
                simpa [Ne.symm other] using this
              · exact ih (found ▸ List.mem_cons_of_mem _ later)

theorem lines_append_feed {line : Text} (h : '\n' ∉ line) (rest : Text) :
    lines (line ++ '\n' :: rest) = line :: lines rest := by
  induction line with
  | nil => simp [lines]
  | cons c line ih =>
      obtain ⟨other, clean⟩ := not_or.mp (List.mem_cons.not.mp h)
      rw [List.cons_append, lines, if_neg (Ne.symm other), ih clean]

theorem lines_flatMap_line {written : List Text} (h : ∀ line ∈ written, '\n' ∉ line) :
    lines (written.flatMap line) = written := by
  induction written with
  | nil => rfl
  | cons first rest ih =>
      rw [List.flatMap_cons, line, List.append_assoc, List.singleton_append,
        lines_append_feed (h first List.mem_cons_self), ih fun line member => h line (List.mem_cons_of_mem _ member)]

theorem unlines_concat_nil (written : List Text) : unlines (written ++ [[]]) = written.flatMap line := by
  induction written with
  | nil => rfl
  | cons first rest ih =>
      have joined : unlines (first :: (rest ++ [[]])) = first ++ ['\n'] ++ unlines (rest ++ [[]]) := by
        rw [unlines, List.intercalate_cons_of_ne_nil (by simp)]
        rfl
      rw [List.cons_append, joined, ih, List.flatMap_cons, line]

@[simp] theorem length_bareLines (text : Text) : text.bareLines.length = text.lines.length := by
  fun_induction bareLines text with
  | case1 => rfl
  | case2 rest ih => simp [lines, ih]
  | case3 rest ih => simp [lines, ih]
  | case4 c rest other feed empty ih =>
      rw [empty] at ih
      have none : lines rest = [] := List.eq_nil_of_length_eq_zero ih.symm
      rw [lines, if_neg other, none]
  | case5 c rest other feed line later found ih =>
      rw [found] at ih
      cases same : lines rest with
      | nil => simp [same] at ih
      | cons first after =>
          rw [lines, if_neg other, same]
          simpa [same] using ih

def withReturns (text : Text) : Text := text.flatMap fun c => if c = '\n' then ['\r', '\n'] else [c]

theorem lines_cons_of_ne {c : Char} (other : c ≠ '\n') (rest : Text) :
    lines (c :: rest) = (c :: rest.lines.headD []) :: rest.lines.tail := by
  rw [lines, if_neg other]
  cases lines rest <;> rfl

theorem lines_eq_nil_iff {text : Text} : text.lines = [] ↔ text = [] := by
  cases text with
  | nil => exact iff_of_true rfl rfl
  | cons c rest =>
      refine iff_of_false (fun none => ?_) (List.cons_ne_nil c rest)
      by_cases feed : c = '\n'
      · simp [lines, feed] at none
      · simp [lines_cons_of_ne feed] at none

theorem lines_withReturns (text : Text) : text.withReturns.lines =
    text.lines.mapIdx fun index line => if index < text.count '\n' then line ++ ['\r'] else line := by
  induction text with
  | nil => rfl
  | cons c rest ih =>
      by_cases feed : c = '\n'
      · subst feed
        have written : withReturns ('\n' :: rest) = '\r' :: '\n' :: withReturns rest := rfl
        rw [written, lines_cons_of_ne (by decide), lines, lines, if_pos rfl, if_pos rfl, ih,
          List.mapIdx_cons, List.count_cons_self]
        simp
      · have written : withReturns (c :: rest) = c :: withReturns rest := by simp [withReturns, feed]
        rw [written, lines_cons_of_ne feed, lines_cons_of_ne feed, ih, List.count_cons_of_ne feed]
        cases found : lines rest with
        | nil => simp [lines_eq_nil_iff.mp found]
        | cons first later =>
            rw [List.mapIdx_cons, List.mapIdx_cons]
            simp only [List.headD_cons, List.tail_cons]
            split <;> rfl

end ScriptSplit.Text
