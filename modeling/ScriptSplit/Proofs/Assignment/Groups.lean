import ScriptSplit.Proofs.Assignment.Partition

namespace ScriptSplit

structure Group.HasNumbers (group : Group) (movable : List Element) (indices : List Nat) : Prop where
  distinct : indices.Nodup
  inRange : ∀ index ∈ indices, 1 ≤ index ∧ index ≤ movable.length
  movable_eq : group.movable = Assignment.withNumbers movable indices

theorem Group.HasNumbers.length_movable {group : Group} {movable : List Element} {indices : List Nat}
    (h : group.HasNumbers movable indices) : group.movable.length = indices.length := by
  rw [h.movable_eq, Assignment.withNumbers, List.length_filterMap_eq_countP]
  apply List.countP_eq_length.mpr
  intro index member
  obtain ⟨low, high⟩ := h.inRange index member
  have bound : index - 1 < movable.length := by omega
  rw [List.getElem?_eq_getElem bound]
  rfl

namespace Assignment
open ScriptSplit.Lists

theorem nodup_others (destinations : List Text) : (others destinations).Nodup := (nodup_eraseDups destinations).tail

theorem eraseDups_eq_cons_others (default : Text) (rest : List Text) :
    (default :: rest).eraseDups = default :: others (default :: rest) := by
  rw [others, List.eraseDups_cons]
  rfl

theorem mem_others_iff {default label : Text} {rest : List Text} :
    label ∈ others (default :: rest) ↔ label ∈ rest ∧ label ≠ default := by
  simp [others, List.eraseDups_cons, List.mem_eraseDups]

variable (elements : List Element) (default : Text) (rest : List Text) (selections : Selections)

theorem map_label_groups (destinations : List Text) :
    (assign elements destinations selections).groups.map Group.label = destinations.eraseDups := by
  change (groupsOf elements destinations _).map Group.label = _
  unfold groupsOf
  cases destinations.eraseDups with
  | nil => rfl
  | cons first rest => simp [Function.comp_def]

theorem groups_eq_cons : (assign elements (default :: rest) selections).groups =
    groupOf elements default (grantsOf elements (default :: rest) selections) default ::
      (others (default :: rest)).map
        (groupOf elements default (grantsOf elements (default :: rest) selections)) := by
  change groupsOf elements (default :: rest) (grantsOf elements (default :: rest) selections) = _
  rw [groupsOf_eq_map, eraseDups_eq_cons_others]
  rfl

theorem default?_assign : (assign elements (default :: rest) selections).default? =
    some (groupOf elements default (grantsOf elements (default :: rest) selections) default) := by
  rw [default?, groups_eq_cons]
  exact List.find?_cons_of_pos (decide_eq_true rfl)

theorem isDefault_of_mem_others {grants : Grants} {group : Group}
    (member : group ∈ (others (default :: rest)).map (groupOf elements default grants)) :
    group.isDefault = false := by
  obtain ⟨label, listed, rfl⟩ := List.mem_map.mp member
  exact decide_eq_false (mem_others_iff.mp listed).2

theorem filter_not_isDefault_groups :
    (assign elements (default :: rest) selections).groups.filter (fun group => !group.isDefault) =
      (others (default :: rest)).map
        (groupOf elements default (grantsOf elements (default :: rest) selections)) := by
  rw [groups_eq_cons, List.filter_cons_of_neg (by simp [groupOf])]
  apply List.filter_eq_self.mpr
  intro group member
  rw [isDefault_of_mem_others elements default rest member]
  rfl

theorem filter_isDefault_groups :
    (assign elements (default :: rest) selections).groups.filter (fun group => group.isDefault) =
      [groupOf elements default (grantsOf elements (default :: rest) selections) default] := by
  rw [groups_eq_cons, List.filter_cons_of_pos (by simp [groupOf]), List.filter_eq_nil_iff.mpr]
  intro group member
  rw [isDefault_of_mem_others elements default rest member]
  exact Bool.false_ne_true

theorem group?_assign {label : Text} (listed : label ∈ default :: rest) :
    (assign elements (default :: rest) selections).group? label =
      some (groupOf elements default (grantsOf elements (default :: rest) selections) label) := by
  change (groupsOf elements (default :: rest) _).find? _ = _
  rw [groupsOf_eq_map, List.find?_map, Lists.find?_eraseDups]
  change Option.map _ ((default :: rest).find? fun other => other = label) = _
  cases found : (default :: rest).find? fun other => other = label with
  | none => exact absurd (decide_eq_true rfl) (List.find?_eq_none.mp found label listed)
  | some other =>
      have same := List.find?_some found
      rw [of_decide_eq_true same]
      rfl

variable {elements default rest selections}

theorem groupOf_hasNumbers (label : Text) :
    (groupOf elements default (grantsOf elements (default :: rest) selections) label).HasNumbers
      (Element.movable elements)
      (numbers (Element.movable elements).length (grantsOf elements (default :: rest) selections) default label) := by
  refine ⟨(grantsOf_wellFormed elements default rest selections).nodup_numbers default label, ?_,
    groupOf_movable elements default _ label⟩
  intro index member
  obtain ⟨low, high, -⟩ := (mem_numbers_grantsOf elements default rest selections).mp member
  exact ⟨low, high⟩

variable (elements default rest selections)

theorem exists_group_of_mem_others {label : Text} (listed : label ∈ others (default :: rest)) : ∃ group,
    (assign elements (default :: rest) selections).group? label = some group ∧ group.isDefault = false ∧
      group.HasNumbers (Element.movable elements) (numbers (Element.movable elements).length
        (grantsOf elements (default :: rest) selections) default label) := by
  obtain ⟨later, differs⟩ := mem_others_iff.mp listed
  exact ⟨_, group?_assign elements default rest selections (List.mem_cons_of_mem default later),
    decide_eq_false differs, groupOf_hasNumbers label⟩

end Assignment
end ScriptSplit
