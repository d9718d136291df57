import ScriptSplit.Text.Basic
import Mathlib.Data.List.Infix
import Mathlib.Data.List.TakeWhile

namespace ScriptSplit.Text

theorem stripWhere_prefix (text : Text) (p : Char → Bool) : text.stripWhere p <+: text.dropWhile p := by
  have front : (text.dropWhile p).reverse.dropWhile p <:+ (text.dropWhile p).reverse :=
    List.dropWhile_suffix p
  rw [stripWhere, ← List.reverse_suffix, List.reverse_reverse]
  exact front

theorem stripWhere_infix (text : Text) (p : Char → Bool) : text.stripWhere p <:+: text := by
  have back := stripWhere_prefix text p
  exact back.isInfix.trans (List.dropWhile_suffix p).isInfix

theorem trim_infix (text : Text) : text.trim <:+: text := stripWhere_infix text isBlank

theorem eq_of_cut {text key first rest : Text} (h : text.cut key = some (first, rest)) :
    text = first ++ key ++ rest := by
  induction text generalizing first with
  | nil =>
      unfold cut at h
      split at h
      · next empty =>
          cases h
          simp [List.isEmpty_iff.mp empty]
      · cases h
  | cons c later ih =>
      unfold cut at h
      split at h
      · next here =>
          cases h
          exact (List.prefix_iff_eq_append.mp (List.isPrefixOf_iff_prefix.mp here)).symm
      · obtain ⟨⟨before, after⟩, found, same⟩ := Option.map_eq_some_iff.mp h
        cases same
        rw [ih found]
        rfl

structure FirstCut (text key before after : Text) : Prop where
  whole : text = before ++ key ++ after
  first : ∀ earlier later, text = earlier ++ key ++ later → before.length ≤ earlier.length

theorem firstCut_of_cut {text key before after : Text} (h : text.cut key = some (before, after)) :
    FirstCut text key before after := by
  refine ⟨eq_of_cut h, ?_⟩
  induction text generalizing before with
  | nil =>
      intro earlier later _
      unfold cut at h
      split at h <;> cases h
      exact Nat.zero_le _
  | cons c rest ih =>
      intro earlier later same
      unfold cut at h
      split at h
      · cases h
        exact Nat.zero_le _
      · next elsewhere =>
          obtain ⟨⟨first, last⟩, found, split⟩ := Option.map_eq_some_iff.mp h
          cases split
          cases earlier with
          | nil => exact absurd (List.isPrefixOf_iff_prefix.mpr ⟨later, same.symm⟩) elsewhere
          | cons d earlier => exact Nat.succ_le_succ (ih found earlier later (List.cons.inj same).2)

theorem FirstCut.absent_before {text key before after : Text} (h : FirstCut text key before after)
    (occupied : key ≠ []) : ¬ key <:+: before := by
  rintro ⟨front, back, same⟩
  have sooner := h.first front (back ++ key ++ after) (by rw [h.whole, ← same]; simp)
  have longer := congrArg List.length same
  have := List.length_pos_iff.mpr occupied
  simp only [List.length_append] at longer
  omega

theorem cut_append_cons {c : Char} {before : Text} (absent : c ∉ before) (after : Text) :
    (before ++ c :: after).cut [c] = some (before, after) := by
  induction before with
  | nil => simp [cut]
  | cons d rest ih =>
      have differs : c ≠ d := List.ne_of_not_mem_cons absent
      have elsewhere : ¬ [c].isPrefixOf (d :: (rest ++ c :: after)) = true := by simp [differs]
      rw [List.cons_append, cut, if_neg elsewhere, ih (List.not_mem_of_not_mem_cons absent)]
      rfl

theorem contains_iff_infix {text key : Text} : text.contains key = true ↔ key <:+: text := by
  rw [contains]
  constructor
  · intro found
    obtain ⟨⟨first, rest⟩, cut⟩ := Option.isSome_iff_exists.mp found
    exact ⟨first, rest, (eq_of_cut cut).symm⟩
  · intro inside
    induction text with
    | nil =>
        obtain rfl := List.infix_nil.mp inside
        rfl
    | cons c rest ih =>
        rw [cut]
        split
        · rfl
        · next elsewhere =>
            rw [Option.isSome_map]
            refine ih ((List.infix_cons_iff.mp inside).resolve_left fun here => ?_)
            exact elsewhere (List.isPrefixOf_iff_prefix.mpr here)

theorem suffix_of_cut {text key first rest : Text} (h : text.cut key = some (first, rest)) : rest <:+ text :=
  ⟨first ++ key, (eq_of_cut h).symm⟩

theorem before_prefix (text key : Text) : text.before key <+: text := by
  unfold before
  split
  · next first rest found => exact ⟨key ++ rest, by rw [← List.append_assoc, ← eq_of_cut found]⟩
  · exact List.prefix_rfl

theorem absent_from_before (text : Text) {key : Text} (occupied : key ≠ []) : ¬ key <:+: text.before key := by
  unfold before
  split
  · next first rest found => exact (firstCut_of_cut found).absent_before occupied
  · next none =>
      rw [← contains_iff_infix, contains, none]
      exact Bool.false_ne_true

theorem suffix_of_after? {text key rest : Text} (h : text.after? key = some rest) : rest <:+ text := by
  unfold after? at h
  split at h
  · cases h
    exact List.drop_suffix key.length text
  · cases h

theorem of_mem_head?_dropWhile {p : Char → Bool} {text : Text} {c : Char} (h : c ∈ (text.dropWhile p).head?) :
    p c = false := by
  have first := List.head?_dropWhile_not p text
  rwa [Option.mem_def.mp h] at first

theorem of_mem_head?_stripWhere {p : Char → Bool} {text : Text} {c : Char} (h : c ∈ (text.stripWhere p).head?) :
    p c = false := by
  obtain ⟨rest, whole⟩ := stripWhere_prefix text p
  have first : c ∈ (text.dropWhile p).head? := by
    rw [← whole, List.head?_append, Option.mem_def.mp h]
    rfl
  exact of_mem_head?_dropWhile first

theorem of_mem_getLast?_stripWhere {p : Char → Bool} {text : Text} {c : Char}
    (h : c ∈ (text.stripWhere p).getLast?) : p c = false := by
  rw [stripWhere, List.getLast?_reverse] at h
  exact of_mem_head?_dropWhile h

variable {before text after key : Text}

theorem infix_append_left_iff (occupied : key ≠ []) (clear : ∀ c ∈ before, c ∉ key) :
    key <:+: before ++ text ↔ key <:+: text := by
  induction before with
  | nil => rfl
  | cons c rest ih =>
      obtain ⟨first, later⟩ := List.forall_mem_cons.mp clear
      rw [List.cons_append, List.infix_cons_iff, ih later]
      refine or_iff_right fun here => ?_
      obtain ⟨k, more, rfl⟩ := List.exists_cons_of_ne_nil occupied
      obtain ⟨rfl, -⟩ := List.cons_prefix_cons.mp here
      exact first List.mem_cons_self

theorem infix_append_right_iff (occupied : key ≠ []) (clear : ∀ c ∈ after, c ∉ key) :
    key <:+: text ++ after ↔ key <:+: text := by
  have clearReversed : ∀ c ∈ after.reverse, c ∉ key.reverse := by simpa using clear
  rw [← List.reverse_infix, List.reverse_append,
    infix_append_left_iff (List.reverse_ne_nil_iff.mpr occupied) clearReversed, List.reverse_infix]

theorem stripWhere_append {p : Char → Bool} (front : ∀ c ∈ before, p c = true) (back : ∀ c ∈ after, p c = true) :
    (before ++ text ++ after).stripWhere p = text.stripWhere p := by
  rw [stripWhere, stripWhere, List.append_assoc, List.dropWhile_append_of_pos front, List.dropWhile_append]
  split
  · next none =>
      have emptied : after.dropWhile p = [] := List.dropWhile_eq_nil_iff.mpr back
      rw [emptied, List.isEmpty_iff.mp none]
  · have backReversed : ∀ c ∈ after.reverse, p c = true := fun c member => back c (List.mem_reverse.mp member)
    rw [List.reverse_append, List.dropWhile_append_of_pos backReversed]

def Padded (text padded : Text) : Prop :=
  ∃ before after : Text, padded = before ++ text ++ after ∧ before.all isBlank = true ∧ after.all isBlank = true

namespace Padded

variable {padded : Text}

theorem trim_eq (h : Padded text padded) : padded.trim = text.trim := by
  obtain ⟨before, after, rfl, front, back⟩ := h
  exact stripWhere_append (List.all_eq_true.mp front) (List.all_eq_true.mp back)

theorem contains_eq (h : Padded text padded) (occupied : key ≠ []) (solid : key.any isBlank = false) :
    padded.contains key = text.contains key := by
  obtain ⟨before, after, rfl, front, back⟩ := h
  have apart {blanks : Text} (all : blanks.all isBlank = true) : ∀ c ∈ blanks, c ∉ key := fun c member inKey =>
    List.any_eq_false.mp solid c inKey (List.all_eq_true.mp all c member)
  rw [Bool.eq_iff_iff, contains_iff_infix, contains_iff_infix, infix_append_right_iff occupied (apart back),
    infix_append_left_iff occupied (apart front)]

theorem count_eq (h : Padded text padded) {c : Char} (solid : isBlank c = false) :
    padded.count c = text.count c := by
  obtain ⟨before, after, rfl, front, back⟩ := h
  have absent {blanks : Text} (all : blanks.all isBlank = true) : blanks.count c = 0 := by
    refine List.count_eq_zero_of_not_mem fun member => ?_
    cases solid.symm.trans (List.all_eq_true.mp all c member)
  rw [List.count_append, List.count_append, absent front, absent back, Nat.zero_add, Nat.add_zero]

end Padded

end ScriptSplit.Text
