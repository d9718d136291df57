import Mathlib.Data.List.Perm.Basic

namespace ScriptSplit.Lists

variable {α κ : Type}

theorem length_eraseAll_lt [BEq κ] (key : κ) (rest : List κ) :
    (rest.filter fun other => !other == key).length < (key :: rest).length :=
  Nat.lt_succ_of_le (List.length_filter_le _ _)

theorem exists_cons_of_eraseDups [BEq κ] {keys rest : List κ} {key : κ} (first : keys.eraseDups = key :: rest) :
    ∃ tail, keys = key :: tail := by
  cases keys with
  | nil => cases first
  | cons head tail =>
      rw [List.eraseDups_cons] at first
      exact ⟨tail, congrArg (· :: tail) (List.cons.inj first).1⟩

section Repetitions
variable [BEq κ] [LawfulBEq κ]

theorem nodup_eraseDups (keys : List κ) : keys.eraseDups.Nodup := by
  cases keys with
  | nil => simp
  | cons key rest =>
      rw [List.eraseDups_cons, List.nodup_cons]
      exact ⟨by simp [List.mem_eraseDups], nodup_eraseDups _⟩
termination_by keys.length
decreasing_by exact length_eraseAll_lt key rest

theorem find?_eraseDups (p : κ → Bool) (keys : List κ) : keys.eraseDups.find? p = keys.find? p := by
  cases keys with
  | nil => rfl
  | cons key rest =>
      rw [List.eraseDups_cons, List.find?_cons, List.find?_cons, find?_eraseDups, List.find?_filter]
      cases found : p key with
      | true => rfl
      | false =>
          refine congrArg (List.find? · rest) (funext fun other => ?_)
          by_cases same : other = key <;> simp [same, found]
termination_by keys.length
decreasing_by exact length_eraseAll_lt key rest

theorem lookup_eq_none_iff_not_mem {entries : List (κ × α)} {key : κ} :
    entries.lookup key = none ↔ key ∉ entries.map Prod.fst := by
  rw [List.lookup_eq_none_iff]
  refine ⟨fun none known => ?_, fun absent entry member => ?_⟩
  · obtain ⟨entry, member, same⟩ := List.mem_map.mp known
    have differs := none entry member
    simp [same] at differs
  · exact bne_iff_ne.mpr fun same => absent (same ▸ List.mem_map_of_mem member)

theorem mem_iff_lookup {entries : List (κ × α)} (distinct : (entries.map Prod.fst).Nodup) {key : κ} {value : α} :
    (key, value) ∈ entries ↔ entries.lookup key = some value := by
  induction entries with
  | nil => simp
  | cons entry rest ih =>
      obtain ⟨known, present⟩ := entry
      obtain ⟨fresh, distinct⟩ := List.nodup_cons.mp distinct
      rw [List.mem_cons, List.lookup_cons]
      by_cases same : key = known
      · subst same
        have absent : (key, value) ∉ rest := fun member =>
          fresh (List.mem_map.mpr ⟨_, member, rfl⟩)
        simp [absent, eq_comm]
      · have differs : (key == known) = false := beq_eq_false_iff_ne.mpr same
        simp [same, differs, ih distinct]

end Repetitions

theorem pairwise_filter_not_append_filter (p : α → Bool) (values : List α) :
    (values.filter (fun value => !p value) ++ values.filter p).Pairwise
      fun earlier later => p earlier = true → p later = true := by
  refine List.pairwise_append.mpr ⟨?_, ?_, ?_⟩
  · refine List.pairwise_filter.mpr (List.pairwise_of_forall fun earlier later without _ holds => ?_)
    simp [holds] at without
  · exact List.pairwise_filter.mpr (List.pairwise_of_forall fun earlier later _ holds _ => holds)
  · intro earlier _ later member _
    exact (List.mem_filter.mp member).2

theorem filter_not_append_filter {p : α → Bool} {values : List α}
    (ordered : values.Pairwise fun earlier later => p earlier = true → p later = true) :
    values.filter (fun value => !p value) ++ values.filter p = values := by
  induction values with
  | nil => rfl
  | cons first rest ih =>
      obtain ⟨after, ordered⟩ := List.pairwise_cons.mp ordered
      cases holds : p first with
      | true =>
          have all : ∀ later ∈ rest, p later = true := fun later member => after later member holds
          have none : rest.filter (fun value => !p value) = [] :=
            List.filter_eq_nil_iff.mpr fun later member => by simp [all later member]
          rw [List.filter_cons_of_neg (by simp [holds]), List.filter_cons_of_pos holds, none,
            List.filter_eq_self.mpr all, List.nil_append]
      | false =>
          rw [List.filter_cons_of_pos (by simp [holds]), List.filter_cons_of_neg (by simp [holds]),
            List.cons_append, ih ordered]

theorem flatMap_filter_perm [DecidableEq κ] (key : α → κ) (keys : List κ) (distinct : keys.Nodup) (values : List α)
    (covered : ∀ value ∈ values, key value ∈ keys) :
    (keys.flatMap fun k => values.filter fun value => key value = k).Perm values := by
  induction keys generalizing values with
  | nil =>
      have empty : values = [] := List.eq_nil_iff_forall_not_mem.mpr fun value member => by
        simpa using covered value member
      simp [empty]
  | cons head rest ih =>
      obtain ⟨fresh, distinct⟩ := List.nodup_cons.mp distinct
      let others := values.filter fun value => !decide (key value = head)
      have fibers : ∀ k ∈ rest, (values.filter fun value => key value = k) =
          others.filter fun value => key value = k := by
        intro k member
        rw [List.filter_filter]
        refine List.filter_congr fun value _ => ?_
        have differs : k ≠ head := fun same => fresh (same ▸ member)
        by_cases same : key value = k <;> simp [same, differs]
      have remaining : ∀ value ∈ others, key value ∈ rest := by
        intro value member
        obtain ⟨member, differs⟩ := List.mem_filter.mp member
        exact (List.mem_cons.mp (covered value member)).resolve_left (by simpa using differs)
      rw [List.flatMap_cons, List.flatMap_congr fibers]
      exact ((ih distinct others remaining).append_left _).trans (List.filter_append_perm _ values)

end ScriptSplit.Lists
