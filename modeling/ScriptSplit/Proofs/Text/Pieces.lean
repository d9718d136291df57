import ScriptSplit.Text.Basic
import Mathlib.Data.List.TakeWhile

namespace ScriptSplit.Text

variable {p : Char → Bool}

theorem splitOnP_separators_append {before : Text} (all : ∀ c ∈ before, p c = true) (text : Text) :
    (before ++ text).splitOnP p = List.replicate before.length [] ++ text.splitOnP p := by
  induction before with
  | nil => rfl
  | cons c rest ih =>
      obtain ⟨first, later⟩ := List.forall_mem_cons.mp all
      rw [List.cons_append, List.splitOnP_cons_eq_if_modifyHead, if_pos first, ih later]
      rfl

theorem splitOnP_append_separators {after : Text} (all : ∀ c ∈ after, p c = true) (text : Text) :
    (text ++ after).splitOnP p = text.splitOnP p ++ List.replicate after.length [] := by
  cases after with
  | nil => simp
  | cons c rest =>
      obtain ⟨first, later⟩ := List.forall_mem_cons.mp all
      have none := splitOnP_separators_append later []
      rw [List.append_nil, List.splitOnP_nil, ← List.replicate_succ'] at none
      rw [List.splitOnP_append_cons text rest first, none]
      rfl

theorem filter_map_splitOnP_append {before after : Text} (front : ∀ c ∈ before, p c = true)
    (back : ∀ c ∈ after, p c = true) {f : Text → Text} (empty : f [] = []) (text : Text) :
    (((before ++ text ++ after).splitOnP p).map f).filter (fun piece => !piece.isEmpty) =
      ((text.splitOnP p).map f).filter fun piece => !piece.isEmpty := by
  have blank (count : Nat) :
      ((List.replicate count []).map f).filter (fun piece : Text => !piece.isEmpty) = [] := by
    rw [List.map_replicate, empty]
    simp
  rw [splitOnP_append_separators back, splitOnP_separators_append front]
  simp only [List.map_append, List.filter_append, blank, List.nil_append, List.append_nil]

theorem cutting_induction {motive : Text → Prop} (whole : ∀ text, (∀ c ∈ text, p c = false) → motive text)
    (cut : ∀ before c after, (∀ d ∈ before, p d = false) → p c = true → motive after → motive (before ++ c :: after))
    (text : Text) : motive text := by
  have further (before : Text) (clear : ∀ c ∈ before, p c = false) : motive (before ++ text) := by
    induction text generalizing before with
    | nil => exact whole _ (by rwa [List.append_nil])
    | cons c rest ih =>
        cases separates : p c with
        | true => exact cut before c rest clear separates (ih [] (by simp))
        | false =>
            rw [List.append_cons]
            exact ih _ (by simpa [or_imp, forall_and, separates] using clear)
  exact further [] (by simp)

theorem exists_eq_append_stripWhere (text : Text) (p : Char → Bool) : ∃ before after,
    text = before ++ text.stripWhere p ++ after ∧ (∀ c ∈ before, p c = true) ∧ ∀ c ∈ after, p c = true := by
  let rest := text.dropWhile p
  refine ⟨text.takeWhile p, (rest.reverse.takeWhile p).reverse, ?_, fun c member => ?_, fun c member => ?_⟩
  · have back : text.stripWhere p ++ (rest.reverse.takeWhile p).reverse = rest := by
      rw [stripWhere, ← List.reverse_append, List.takeWhile_append_dropWhile, List.reverse_reverse]
    rw [List.append_assoc, back, List.takeWhile_append_dropWhile]
  · exact List.mem_takeWhile_imp member
  · exact List.mem_takeWhile_imp (List.mem_reverse.mp member)

theorem stripWhere_of_forall {text : Text} (none : ∀ c ∈ text, p c = false) : text.stripWhere p = text := by
  have stays {text : Text} (none : ∀ c ∈ text, p c = false) : text.dropWhile p = text :=
    List.dropWhile_eq_self_iff.mpr fun occupied => by simp [none _ (List.getElem_mem occupied)]
  rw [stripWhere, stays none, stays fun c member => none c (List.mem_reverse.mp member), List.reverse_reverse]

inductive MaximalRuns (p : Char → Bool) : Text → List Text → Prop
  | none {gap : Text} (clear : ∀ c ∈ gap, p c = false) : MaximalRuns p gap []
  | run {gap run rest : Text} {later : List Text} (clear : ∀ c ∈ gap, p c = false) (occupied : run ≠ [])
      (all : ∀ c ∈ run, p c = true) (ends : ∀ c ∈ rest.head?, p c = false) (found : MaximalRuns p rest later) :
      MaximalRuns p (gap ++ (run ++ rest)) (run :: later)

theorem runs_append_cons {c : Char} (outside : p c = false) (before after : Text) :
    (before ++ c :: after).runs p = before.runs p ++ after.runs p := by
  rw [runs, List.splitOnP_append_cons before after (by simp [outside]), List.filter_append, runs, runs]

theorem runs_cons {c : Char} (outside : p c = false) (rest : Text) : runs (c :: rest) p = rest.runs p :=
  runs_append_cons outside [] rest

theorem runs_append_of_clear {gap : Text} (clear : ∀ c ∈ gap, p c = false) (text : Text) :
    (gap ++ text).runs p = text.runs p := by
  induction gap with
  | nil => rfl
  | cons c rest ih =>
      obtain ⟨first, later⟩ := List.forall_mem_cons.mp clear
      rw [List.cons_append, runs_cons first, ih later]

theorem runs_of_all {run : Text} (occupied : run ≠ []) (all : ∀ c ∈ run, p c = true) : run.runs p = [run] := by
  rw [runs, List.splitOnP_eq_singleton fun c member => by rw [all c member, Bool.not_true]]
  simp [occupied]

theorem MaximalRuns.runs_eq {text : Text} {found : List Text} (h : MaximalRuns p text found) :
    text.runs p = found := by
  induction h with
  | @none gap clear =>
      rw [← List.append_nil gap, runs_append_of_clear clear]
      rfl
  | @run gap run rest later clear occupied all ends found ih =>
      rw [runs_append_of_clear clear]
      cases rest with
      | nil =>
          rw [List.append_nil, runs_of_all occupied all, ← ih]
          rfl
      | cons c rest =>
          have outside : p c = false := ends c rfl
          rw [runs_append_cons outside, runs_of_all occupied all, ← ih, runs_cons outside]
          rfl

theorem MaximalRuns.mem_of_mem {text run : Text} {found : List Text} (h : MaximalRuns p text found)
    (member : run ∈ found) {c : Char} (inside : c ∈ run) : c ∈ text ∧ p c = true := by
  induction h with
  | none => cases member
  | run clear occupied all ends found ih =>
      rcases List.mem_cons.mp member with rfl | further
      · exact ⟨by simp [inside], all c inside⟩
      · obtain ⟨known, holds⟩ := ih further
        exact ⟨by simp [known], holds⟩

theorem MaximalRuns.start {run rest : Text} {later : List Text} (occupied : run ≠ []) (all : ∀ c ∈ run, p c = true)
    (ends : ∀ c ∈ rest.head?, p c = false) (found : MaximalRuns p rest later) :
    MaximalRuns p (run ++ rest) (run :: later) := by
  rw [← List.nil_append (run ++ rest)]
  exact .run (by simp) occupied all ends found

theorem exists_maximalRuns (p : Char → Bool) (text : Text) : ∃ found, MaximalRuns p text found := by
  induction text with
  | nil => exact ⟨[], .none (by simp)⟩
  | cons c rest ih =>
      obtain ⟨found, h⟩ := ih
      cases inside : p c with
      | false =>
          -- The character belongs to the first gap.
          cases h with
          | none clear => exact ⟨[], .none (List.forall_mem_cons.mpr ⟨inside, clear⟩)⟩
          | run clear occupied all ends found =>
              rw [← List.cons_append]
              exact ⟨_, .run (List.forall_mem_cons.mpr ⟨inside, clear⟩) occupied all ends found⟩
      | true =>
          have single : ∀ d ∈ [c], p d = true := by simpa using inside
          have alone (ends : ∀ d ∈ rest.head?, p d = false) : ∃ found, MaximalRuns p ([c] ++ rest) found :=
            ⟨_, .start (by simp) single ends h⟩
          -- A stretch at the start of the rest grows by the character, and one further on leaves it alone.
          cases h with
          | none clear => exact alone fun d head => clear d (List.mem_of_mem_head? head)
          | @run gap run rest later clear occupied all ends found =>
              cases gap with
              | nil =>
                  have grown : ∀ d ∈ c :: run, p d = true := List.forall_mem_cons.mpr ⟨inside, all⟩
                  exact ⟨_, .start (List.cons_ne_nil c run) grown ends found⟩
              | cons d gap => exact alone fun e head => clear e (List.mem_of_mem_head? head)

theorem maximalRuns_iff {text : Text} {found : List Text} : MaximalRuns p text found ↔ text.runs p = found := by
  refine ⟨MaximalRuns.runs_eq, ?_⟩
  rintro rfl
  obtain ⟨found, h⟩ := exists_maximalRuns p text
  rwa [h.runs_eq]

theorem runs_eq_nil_iff {text : Text} : text.runs p = [] ↔ ∀ c ∈ text, p c = false := by
  rw [← maximalRuns_iff]
  refine ⟨fun h => ?_, .none⟩
  cases h with
  | none clear => exact clear

theorem runs_eq_flatMap_splitOnP {q : Char → Bool} (apart : ∀ c, q c = true → p c = false) (text : Text) :
    text.runs p = (text.splitOnP q).flatMap fun piece => runs piece p := by
  induction text using cutting_induction (p := q) with
  | whole text clear => rw [List.splitOnP_eq_singleton clear, List.flatMap_singleton]
  | cut before c after clear separates ih =>
      rw [List.splitOnP_append_cons_of_forall_mem clear c separates, List.flatMap_cons, ← ih,
        runs_append_cons (apart c separates)]

theorem runs_stripWhere {q : Char → Bool} (apart : ∀ c, q c = true → p c = false) (text : Text) :
    (text.stripWhere q).runs p = text.runs p := by
  obtain ⟨before, after, whole, front, back⟩ := text.exists_eq_append_stripWhere q
  have outside (c : Char) (separates : q c = true) : (!p c) = true := by rw [apart c separates, Bool.not_false]
  have same := filter_map_splitOnP_append (fun c member => outside c (front c member))
    (fun c member => outside c (back c member)) (f := id) rfl (text.stripWhere q)
  rw [← whole, List.map_id, List.map_id] at same
  exact same.symm

/-! ## Decimal numerals -/

theorem number_numeral (n : Nat) : number (numeral n) = n := Nat.ofDigitChars_toDigits (by decide) (by decide)

theorem isDigit_of_mem_numeral {c : Char} {n : Nat} (h : c ∈ numeral n) : c.isDigit = true :=
  Nat.isDigit_of_mem_toDigits (by decide) (by decide) h

theorem numeral_ne_nil (n : Nat) : numeral n ≠ [] := List.ne_nil_of_length_pos Nat.length_toDigits_pos

theorem eq_zero_of_head?_numeral {n : Nat} (h : (numeral n).head? = some '0') : n = 0 := by
  induction n using Nat.strongRecOn with
  | ind n ih =>
      rw [numeral, Nat.toDigits_eq_if (by decide)] at h
      split at h
      · simpa using h
      · next large =>
          rw [List.head?_append, Option.or_of_isSome (by simp)] at h
          have := ih (n / 10) (by omega) h
          omega

theorem length_numeral_of_head? {n : Nat} (h : (numeral n).head? = some '0') : (numeral n).length = 1 := by
  rw [eq_zero_of_head?_numeral h]
  rfl

theorem not_mem_numeral {c : Char} (other : c.isDigit = false) (n : Nat) : c ∉ numeral n := by
  intro member
  rw [isDigit_of_mem_numeral member] at other
  cases other

end ScriptSplit.Text
