import ScriptSplit.Proofs.Assignment.Groups
import ScriptSplit.Proofs.Assignment.Rulings
import ScriptSplit.Proofs.Lists.Past

namespace ScriptSplit.Assignment
open ScriptSplit.Lists

theorem repetitions_concat (seen labels : List Text) (label : Text) :
    repetitions seen (labels ++ [label]) =
      repetitions seen labels ++ if label ∈ seen ∨ label ∈ labels then [label] else [] := by
  induction labels generalizing seen with
  | nil => simp [repetitions]
  | cons first rest ih =>
      by_cases known : first ∈ seen
      · have told : label ∈ seen ∨ label ∈ first :: rest ↔ label ∈ seen ∨ label ∈ rest := by grind
        simp only [List.cons_append, repetitions, if_pos known, ih, told]
      · have told : label ∈ seen ∨ label ∈ first :: rest ↔ label ∈ first :: seen ∨ label ∈ rest := by grind
        simp only [List.cons_append, repetitions, if_neg known, ih, told]

theorem repetitions_eq_repeats (labels : List Text) : repetitions [] labels = repeats labels := by
  induction labels using List.reverseRecOn with
  | nil => rfl
  | append_singleton labels label ih =>
      rw [repetitions_concat, repeats_concat, ih]
      simp

section Labels
variable (elements : List Element) (destinations : List Text) (selections : Selections)

theorem rulings_firsts : rulings elements (firsts destinations) selections =
    rulings elements destinations selections := by
  simp only [rulings, requests, others, eraseDups_firsts]

theorem groups_firsts : (assign elements (firsts destinations) selections).groups =
    (assign elements destinations selections).groups := by
  simp only [assign, groupsOf, rulings_firsts, eraseDups_firsts]

theorem issues_firsts : (assign elements (firsts destinations) selections).issues =
    (assign elements destinations selections).issues := by
  simp only [assign, rulings_firsts]

theorem warnings_eq_repeats : (assign elements destinations selections).warnings =
    (repeats destinations).map .duplicateDestination :=
  congrArg _ (repetitions_eq_repeats destinations)

theorem mem_iff_exists_group? (label : Text) : label ∈ destinations ↔
    ∃ group, (assign elements destinations selections).group? label = some group ∧ group.label = label := by
  constructor
  · intro listed
    cases destinations with
    | nil => cases listed
    | cons default rest => exact ⟨_, group?_assign elements default rest selections listed, rfl⟩
  · rintro ⟨group, found, rfl⟩
    rw [← List.mem_eraseDups, ← map_label_groups elements selections destinations]
    exact List.mem_map_of_mem (List.mem_of_find?_eq_some found)

end Labels

theorem assign_firsts (elements : List Element) (destinations : List Text) (selections : Selections) :
    let whole := assign elements destinations selections
    let kept := assign elements (firsts destinations) selections
    whole.groups = kept.groups ∧ whole.issues = kept.issues ∧
    whole.warnings = (repeats destinations).map .duplicateDestination ∧ kept.warnings = [] ∧
    (whole.groups.map Group.label).Nodup ∧
    (∀ label, label ∈ destinations ↔ ∃ group, whole.group? label = some group ∧ group.label = label) ∧
    ∀ default, destinations.head? = some default → ∃ group, whole.groups.head? = some group ∧
      group.label = default ∧ whole.default? = some group ∧
        (whole.groups.filter fun other => other.isDefault) = [group] := by
  intro whole kept
  refine ⟨(groups_firsts elements destinations selections).symm, (issues_firsts elements destinations selections).symm,
    warnings_eq_repeats elements destinations selections, ?_, ?_,
    mem_iff_exists_group? elements destinations selections, ?_⟩
  · have all : kept.warnings = _ := warnings_eq_repeats elements (firsts destinations) selections
    rw [all, repeats_of_nodup (nodup_firsts destinations)]
    rfl
  · rw [map_label_groups]
    exact nodup_eraseDups destinations
  · intro default first
    cases destinations with
    | nil => cases first
    | cons head rest =>
        cases first
        refine ⟨groupOf elements default (grantsOf elements (default :: rest) selections) default, ?_, rfl,
          default?_assign elements default rest selections, filter_isDefault_groups elements default rest selections⟩
        rw [groups_eq_cons]
        rfl

/-! ## The order of groups and in groups -/
open ScriptSplit.Lists

variable (elements : List Element) (default : Text) (rest : List Text) (selections : Selections)

theorem withNumbers_filter_sublist (movable : List Element) (p : Nat → Bool) :
    (withNumbers movable ((List.range' 1 movable.length).filter p)).Sublist movable := by
  have all : (withNumbers movable ((List.range' 1 movable.length).filter p)).Sublist
      (withNumbers movable (List.range' 1 movable.length)) := List.filter_sublist.filterMap _
  rwa [withNumbers_range'] at all

theorem numbers_asScanned (count : Nat) (grants : Grants) :
    (numbers count grants default default).Pairwise (· < ·) := by
  rw [numbers, if_pos rfl]
  have ascending : (List.range' 1 count).Pairwise (· < ·) := List.pairwise_lt_range' 1
  exact ascending.filter _

theorem numbers_asAsked {label : Text} (listed : label ∈ others (default :: rest)) :
    OrderedAsIn (asked selections label) (numbers (Element.movable elements).length
      (grantsOf elements (default :: rest) selections) default label) := by
  obtain ⟨before, later, split⟩ := List.append_of_mem listed
  rw [numbers_eq_held split]
  exact (orderedAsIn_firsts (asked selections label)).filter _

theorem groups_ordered :
    let movable := Element.movable elements
    let groups := (assign elements (default :: rest) selections).groups
    OrderedAsIn (default :: rest) (groups.map Group.label) ∧
    (∀ label ∈ default :: rest, label ∈ groups.map Group.label) ∧
    ∀ group ∈ groups, group.elements = Element.shared elements ++ group.movable ∧
      ∃ indices, group.HasNumbers movable indices ∧
        (∀ index, index ∈ indices ↔
          1 ≤ index ∧ index ≤ movable.length ∧ owner default rest selections index = group.label) ∧
        (group.isDefault = false → OrderedAsIn (asked selections group.label) indices) ∧
        (group.isDefault = true → indices.Pairwise (· < ·) ∧ group.movable.Sublist movable) := by
  intro movable groups
  have labels : groups.map Group.label = firsts (default :: rest) :=
    (map_label_groups elements selections (default :: rest)).trans (eraseDups_eq_firsts _)
  refine ⟨labels ▸ orderedAsIn_firsts (default :: rest), ?_, ?_⟩
  · intro label listed
    rw [labels]
    exact mem_firsts.mpr listed
  intro group member
  have parts := elements_eq_shared_append_movable elements default rest selections member
  have listed := List.mem_map_of_mem (f := Group.label) member
  rw [labels, mem_firsts] at listed
  obtain ⟨label, rfl⟩ := exists_eq_groupOf elements default rest selections member
  rw [groupOf_shared] at parts
  refine ⟨parts, _, groupOf_hasNumbers label, fun index => mem_numbers_grantsOf elements default rest selections,
    ?_, ?_⟩
  · intro other
    have differs : label ≠ default := of_decide_eq_false other
    have later := (List.mem_cons.mp listed).resolve_left differs
    exact numbers_asAsked elements default rest selections (mem_others_iff.mpr ⟨later, differs⟩)
  · intro same
    obtain rfl : label = default := of_decide_eq_true same
    refine ⟨numbers_asScanned label _ _, ?_⟩
    rw [groupOf_movable, numbers, if_pos rfl]
    exact withNumbers_filter_sublist movable _

end ScriptSplit.Assignment
