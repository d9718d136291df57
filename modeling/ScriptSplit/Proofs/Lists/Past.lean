import ScriptSplit.Proofs.Lists
import Mathlib.Data.List.Induction

/-!
# Values and what stands before them

`withPast` puts every value of a list beside the values before it. What a loop makes of a value can then be
said without the state of the loop. A value that does not stand in its own past is one of the `firsts`, any
other is one of the `repeats`.
-/

namespace ScriptSplit.Lists

variable {α β : Type}

def withPast : List α → List (List α × α)
  | [] => []
  | value :: rest => ([], value) :: (withPast rest).map fun (past, later) => (value :: past, later)

theorem map_snd_withPast (values : List α) : (withPast values).map Prod.snd = values := by
  induction values with
  | nil => rfl
  | cons value rest ih => simpa [withPast, Function.comp_def] using ih

theorem withPast_append (first second : List α) : withPast (first ++ second) =
    withPast first ++ (withPast second).map fun (past, value) => (first ++ past, value) := by
  induction first with
  | nil => simp [withPast]
  | cons value rest ih => simp [withPast, ih, Function.comp_def]

theorem withPast_concat (values : List α) (value : α) :
    withPast (values ++ [value]) = withPast values ++ [(values, value)] := by
  simp [withPast_append, withPast]

theorem withPast_append_cons (before later : List α) (value : α) : withPast (before ++ value :: later) =
    withPast before ++ (before, value) ::
      (withPast later).map fun (past, other) => (before ++ value :: past, other) := by
  simp [withPast_append, withPast, Function.comp_def]

theorem withPast_map (f : α → β) (values : List α) :
    withPast (values.map f) = (withPast values).map fun (past, value) => (past.map f, f value) := by
  induction values with
  | nil => rfl
  | cons value rest ih => simp [withPast, ih, Function.comp_def]

theorem withPast_flatMap (f : α → List β) (values : List α) : withPast (values.flatMap f) =
    (withPast values).flatMap fun (past, value) =>
      (withPast (f value)).map fun (inner, part) => (past.flatMap f ++ inner, part) := by
  induction values with
  | nil => rfl
  | cons value rest ih =>
      simp [withPast, withPast_append, ih, List.map_flatMap, List.flatMap_map, Function.comp_def]

theorem mem_withPast_iff {values past : List α} {value : α} :
    (past, value) ∈ withPast values ↔ ∃ future, values = past ++ value :: future := by
  induction values generalizing past with
  | nil => simp [withPast]
  | cons first rest ih =>
      cases past with
      | nil => simp [withPast, eq_comm]
      | cons head tail => simp [withPast, ih, and_comm, eq_comm]

theorem snd_mem_of_mem_withPast {values : List α} {entry : List α × α} (member : entry ∈ withPast values) :
    entry.2 ∈ values := by
  rw [← map_snd_withPast values]
  exact List.mem_map_of_mem member

theorem not_mem_past_of_nodup {values : List α} (distinct : values.Nodup) {entry : List α × α}
    (member : entry ∈ withPast values) : entry.2 ∉ entry.1 := by
  obtain ⟨future, rfl⟩ := mem_withPast_iff.mp member
  intro known
  exact (List.nodup_append.mp distinct).2.2 entry.2 known entry.2 List.mem_cons_self rfl

theorem length_past_lt {values : List α} {entry : List α × α} (member : entry ∈ withPast values) :
    entry.1.length < values.length := by
  obtain ⟨future, rfl⟩ := mem_withPast_iff.mp member
  simp

theorem snd_mem_of_length_lt {before after : List α} {value : α} {entry : List α × α}
    (member : entry ∈ withPast (before ++ value :: after)) (longer : before.length < entry.1.length) :
    entry.2 ∈ after := by
  rw [withPast_append_cons, List.mem_append, List.mem_cons] at member
  rcases member with earlier | rfl | later
  · exact absurd (length_past_lt earlier) (Nat.lt_asymm longer)
  · exact absurd longer (Nat.lt_irrefl _)
  · obtain ⟨⟨past, other⟩, there, rfl⟩ := List.mem_map.mp later
    have known := snd_mem_of_mem_withPast there
    exact known

theorem exists_last_withPast {p : List α × α → Prop} {values : List α} (found : ∃ entry ∈ withPast values, p entry) :
    ∃ last ∈ withPast values, p last ∧
      ∀ entry ∈ withPast values, last.1.length < entry.1.length → ¬ p entry := by
  induction values using List.reverseRecOn with
  | nil => simp [withPast] at found
  | append_singleton before value ih =>
      simp only [withPast_concat, List.mem_append, List.mem_singleton] at found ⊢
      by_cases final : p (before, value)
      · refine ⟨_, .inr rfl, final, ?_⟩
        rintro entry (earlier | rfl) longer
        · exact absurd (length_past_lt earlier) (Nat.lt_asymm longer)
        · exact absurd longer (Nat.lt_irrefl _)
      · obtain ⟨entry, member | rfl, holds⟩ := found
        · obtain ⟨last, among, holds, none⟩ := ih ⟨entry, member, holds⟩
          refine ⟨last, .inl among, holds, ?_⟩
          rintro other (earlier | rfl) longer
          · exact none other earlier longer
          · exact final
        · exact absurd holds final

theorem filter_flatMap_withPast [DecidableEq α] {make : List α × α → List β} {name : β → α}
    (named : ∀ entry, ∀ made ∈ make entry, name made = entry.2) {before later : List α} {value : α}
    (distinct : (before ++ value :: later).Nodup) :
    ((withPast (before ++ value :: later)).flatMap make).filter (fun made => name made = value) =
      make (before, value) := by
  have gone (entries : List (List α × α)) (absent : value ∉ entries.map Prod.snd) :
      (entries.flatMap make).filter (fun made => name made = value) = [] := by
    apply List.filter_eq_nil_iff.mpr
    intro made member same
    obtain ⟨entry, there, comes⟩ := List.mem_flatMap.mp member
    rw [← of_decide_eq_true same, named entry made comes] at absent
    exact absent (List.mem_map_of_mem there)
  obtain ⟨-, after, apart⟩ := List.nodup_append.mp distinct
  have unheard : value ∉ (withPast before).map Prod.snd := by
    rw [map_snd_withPast]
    exact fun known => apart value known value List.mem_cons_self rfl
  have unlisted : value ∉
      ((withPast later).map fun (past, other) => (before ++ value :: past, other)).map Prod.snd := by
    rw [List.map_map]
    exact (map_snd_withPast later).symm ▸ (List.nodup_cons.mp after).1
  rw [withPast_append_cons, List.flatMap_append, List.flatMap_cons, List.filter_append, List.filter_append,
    gone _ unheard, gone _ unlisted, List.nil_append, List.append_nil]
  exact List.filter_eq_self.mpr fun made member => decide_eq_true (named _ made member)

section Occurrences
variable [BEq α] [LawfulBEq α]

def firsts (values : List α) : List α :=
  (withPast values).filterMap fun (past, value) => if value ∈ past then none else some value

def repeats (values : List α) : List α :=
  (withPast values).filterMap fun (past, value) => if value ∈ past then some value else none

theorem firsts_concat (values : List α) (value : α) :
    firsts (values ++ [value]) = firsts values ++ if value ∈ values then [] else [value] := by
  rw [firsts, withPast_concat, List.filterMap_append]
  by_cases known : value ∈ values <;> simp [firsts, known]

theorem repeats_concat (values : List α) (value : α) :
    repeats (values ++ [value]) = repeats values ++ if value ∈ values then [value] else [] := by
  rw [repeats, withPast_concat, List.filterMap_append]
  by_cases known : value ∈ values <;> simp [repeats, known]

theorem eraseDups_eq_firsts (values : List α) : values.eraseDups = firsts values := by
  induction values using List.reverseRecOn with
  | nil => rfl
  | append_singleton values value ih =>
      rw [List.eraseDups_append, firsts_concat, ih]
      by_cases known : value ∈ values <;> simp [List.removeAll, List.eraseDups_cons, known]

theorem firsts_append_repeats_perm (values : List α) : (firsts values ++ repeats values).Perm values := by
  induction values using List.reverseRecOn with
  | nil => exact .nil
  | append_singleton values value ih =>
      rw [firsts_concat, repeats_concat]
      by_cases known : value ∈ values
      · simpa [known] using ih.append_right [value]
      · have moved := (ih.cons value).trans (List.perm_append_singleton value values).symm
        simpa [known] using List.perm_middle.trans moved

theorem mem_firsts {values : List α} {value : α} : value ∈ firsts values ↔ value ∈ values := by
  rw [← eraseDups_eq_firsts, List.mem_eraseDups]

theorem firsts_of_nodup {values : List α} (distinct : values.Nodup) : firsts values = values := by
  conv_rhs => rw [← map_snd_withPast values, ← List.filterMap_eq_map]
  apply List.filterMap_congr
  intro entry member
  exact if_neg (not_mem_past_of_nodup distinct member)

theorem repeats_of_nodup {values : List α} (distinct : values.Nodup) : repeats values = [] := by
  apply List.filterMap_eq_nil_iff.mpr
  intro entry member
  exact if_neg (not_mem_past_of_nodup distinct member)

theorem firsts_filter (p : α → Bool) (values : List α) : firsts (values.filter p) = (firsts values).filter p := by
  induction values using List.reverseRecOn with
  | nil => rfl
  | append_singleton values value ih =>
      rw [firsts_concat, List.filter_append, List.filter_append, ← ih]
      cases kept : p value with
      | false => by_cases known : value ∈ values <;> simp [kept, known]
      | true => by_cases known : value ∈ values <;> simp [kept, known, firsts_concat]

theorem nodup_firsts (values : List α) : (firsts values).Nodup := by
  rw [← eraseDups_eq_firsts]
  exact nodup_eraseDups values

theorem eraseDups_firsts (values : List α) : (firsts values).eraseDups = values.eraseDups := by
  rw [eraseDups_eq_firsts, firsts_of_nodup (nodup_firsts values), eraseDups_eq_firsts]

structure OrderedAsIn (list values : List α) : Prop where
  listed : ∀ value ∈ values, value ∈ list
  ordered : values.Pairwise fun earlier later => list.idxOf earlier < list.idxOf later

theorem orderedAsIn_firsts (values : List α) : OrderedAsIn values (firsts values) := by
  refine ⟨fun value => mem_firsts.mp, ?_⟩
  induction values using List.reverseRecOn with
  | nil => exact .nil
  | append_singleton values value ih =>
      have kept : ∀ known ∈ firsts values, (values ++ [value]).idxOf known = values.idxOf known :=
        fun known member => List.idxOf_append_of_mem (mem_firsts.mp member)
      rw [firsts_concat]
      apply List.pairwise_append.mpr
      refine ⟨?_, ?_, ?_⟩
      · apply ih.imp_of_mem
        intro earlier later first second before
        rwa [kept earlier first, kept later second]
      · split <;> simp
      · intro known member last there
        split at there
        · cases there
        · rename_i fresh
          obtain rfl := List.mem_singleton.mp there
          rw [kept known member, List.idxOf_append_of_notMem fresh]
          have bound := List.idxOf_lt_length_of_mem (mem_firsts.mp member)
          omega

omit [LawfulBEq α] in
theorem OrderedAsIn.filter {list values : List α} (h : OrderedAsIn list values) (p : α → Bool) :
    OrderedAsIn list (values.filter p) :=
  ⟨fun value member => h.listed value (List.mem_filter.mp member).1, h.ordered.filter p⟩

end Occurrences

end ScriptSplit.Lists
