import ScriptSplit.Proofs.Assignment.Grants
import ScriptSplit.Proofs.Lists

namespace ScriptSplit.Assignment

/-! ## Owners -/

def asksFor (selections : Selections) (index : Nat) (label : Text) : Bool :=
  (selections.lookup label).any fun selection => selection.indices.contains index

def owner (default : Text) (rest : List Text) (selections : Selections) (index : Nat) : Text :=
  (rest.find? fun label => label ≠ default && asksFor selections index label).getD default

theorem findSome?_map_number (label : Text) (indices : List Nat) (index : Nat) :
    (indices.map (Request.number label)).findSome? (Request.asker? index) =
      if index ∈ indices then some label else none := by
  induction indices with
  | nil => rfl
  | cons head tail ih =>
      by_cases same : head = index
      · simp [Request.asker?, same]
      · simp [Request.asker?, same, Ne.symm same, ih]

theorem findSome?_requestsOf (label : Text) (selection : Selection) (index : Nat) :
    (requestsOf label selection).findSome? (Request.asker? index) =
      if index ∈ selection.indices then some label else none := by
  obtain ⟨indices, ignored⟩ := selection
  cases indices with
  | nil => cases ignored <;> simp [requestsOf, Request.asker?]
  | cons first later => exact findSome?_map_number label (first :: later) index

theorem findSome?_flatMap_requestsOf (labels : List Text) (selections : Selections) (index : Nat) :
    (labels.flatMap fun label => ((selections.lookup label).map (requestsOf label)).getD []).findSome?
      (Request.asker? index) = labels.find? (asksFor selections index) := by
  induction labels with
  | nil => rfl
  | cons label labels ih =>
      rw [List.flatMap_cons, List.findSome?_append, ih, List.find?_cons]
      cases found : selections.lookup label with
      | none => simp [asksFor, found]
      | some selection =>
          by_cases member : index ∈ selection.indices <;>
            simp [asksFor, found, findSome?_requestsOf, member]

theorem find?_others (default : Text) (rest : List Text) (p : Text → Bool) :
    (others (default :: rest)).find? p = rest.find? fun label => label ≠ default && p label := by
  rw [others, List.eraseDups_cons, List.tail_cons, Lists.find?_eraseDups, List.find?_filter]
  refine congrArg (List.find? · rest) (funext fun label => ?_)
  by_cases same : label = default <;> simp [same]

theorem findSome?_requests (default : Text) (rest : List Text) (selections : Selections) (index : Nat) :
    (requests (default :: rest) selections).findSome? (Request.asker? index) =
      rest.find? fun label => label ≠ default && asksFor selections index label := by
  rw [requests, findSome?_flatMap_requestsOf, find?_others]

/-! ## Numbers of a group -/

def grantsOf (elements : List Element) (destinations : List Text) (selections : Selections) : Grants :=
  (rulings elements destinations selections).filterMap Ruling.grant?

def numbers (count : Nat) (grants : Grants) (default label : Text) : List Nat :=
  if label = default then (List.range' 1 count).filter fun index => (grants.lookup index).isNone
  else (grants.filter fun grant => grant.2 = label).map Prod.fst

variable (elements : List Element) (default : Text) (rest : List Text) (selections : Selections)

theorem grantsOf_eq_grantsAfter : grantsOf elements (default :: rest) selections =
    grantsAfter (Element.movable elements).length [] (requests (default :: rest) selections) := by
  simp [grantsOf, grantsAfter, rulings]

theorem grantsOf_wellFormed :
    (grantsOf elements (default :: rest) selections).WellFormed (Element.movable elements).length := by
  rw [grantsOf_eq_grantsAfter]
  exact (wellFormed_nil _).grantsAfter _

theorem lookup_grantsOf {index : Nat} (low : 0 < index) (high : index ≤ (Element.movable elements).length) :
    (grantsOf elements (default :: rest) selections).lookup index =
      rest.find? fun label => label ≠ default && asksFor selections index label := by
  rw [grantsOf_eq_grantsAfter, lookup_grantsAfter low high, ← findSome?_requests]
  rfl

theorem owner_eq_default_iff {index : Nat} : owner default rest selections index = default ↔
    (rest.find? fun label => label ≠ default && asksFor selections index label) = none := by
  rw [owner]
  cases found : rest.find? fun label => label ≠ default && asksFor selections index label with
  | none => simp
  | some label =>
      have differs : label ≠ default := by
        have wanted := List.find?_some found
        exact of_decide_eq_true (Bool.and_eq_true_iff.mp wanted).1
      simp [differs]

theorem owner_eq_iff {label : Text} (differs : label ≠ default) {index : Nat} :
    owner default rest selections index = label ↔
      (rest.find? fun other => other ≠ default && asksFor selections index other) = some label := by
  rw [owner]
  cases rest.find? fun other => other ≠ default && asksFor selections index other with
  | none => simp [Ne.symm differs]
  | some other => simp

theorem mem_numbers_grantsOf {label : Text} {index : Nat} :
    index ∈ numbers (Element.movable elements).length (grantsOf elements (default :: rest) selections)
        default label ↔
      1 ≤ index ∧ index ≤ (Element.movable elements).length ∧ owner default rest selections index = label := by
  have formed := grantsOf_wellFormed elements default rest selections
  have held {index : Nat} : 0 < index → index ≤ (Element.movable elements).length →
      (grantsOf elements (default :: rest) selections).lookup index =
        rest.find? fun other => other ≠ default && asksFor selections index other :=
    lookup_grantsOf elements default rest selections
  by_cases same : label = default
  · subst same
    simp only [numbers, if_true, List.mem_filter, List.mem_range'_1, Option.isNone_iff_eq_none,
      owner_eq_default_iff]
    constructor
    · rintro ⟨⟨low, high⟩, free⟩
      exact ⟨low, by omega, held low (by omega) ▸ free⟩
    · rintro ⟨low, high, free⟩
      exact ⟨⟨low, by omega⟩, (held low high).trans free⟩
  · simp only [numbers, if_neg same, List.mem_map, List.mem_filter, decide_eq_true_eq, owner_eq_iff _ _ _ same]
    constructor
    · rintro ⟨⟨granted, holder⟩, ⟨member, rfl⟩, rfl⟩
      obtain ⟨low, high⟩ := formed.inRange _ member
      exact ⟨low, high, held low high ▸ formed.mem_iff_lookup.mp member⟩
    · rintro ⟨low, high, found⟩
      exact ⟨(index, label), ⟨formed.mem_iff_lookup.mpr ((held low high).trans found), rfl⟩, rfl⟩

theorem Grants.WellFormed.nodup_numbers {count : Nat} {grants : Grants} (formed : grants.WellFormed count)
    (default label : Text) : (numbers count grants default label).Nodup := by
  unfold numbers
  split
  · exact (List.nodup_range' 1).filter _
  · exact formed.distinct.sublist (List.filter_sublist.map Prod.fst)

/-! ## Groups by their numbers -/

def withNumbers (movable : List Element) (indices : List Nat) : List Element :=
  indices.filterMap fun index => movable[index - 1]?

theorem grantedTo_eq_numbers (movable : List Element) (grants : Grants) {default label : Text}
    (differs : label ≠ default) : grantedTo movable grants label =
      withNumbers movable (numbers movable.length grants default label) := by
  simp only [grantedTo, withNumbers, numbers, if_neg differs, List.filterMap_map, List.filterMap_filter]
  simp

theorem ungranted_eq_numbers (movable : List Element) (grants : Grants) (default : Text) :
    ungranted movable grants = withNumbers movable (numbers movable.length grants default default) := by
  have counted (start : Nat) : ((movable.zipIdx start).filterMap fun entry =>
        if (grants.lookup entry.2).isSome then none else some entry.1) =
      ((List.range' start movable.length).filter fun index => (grants.lookup index).isNone).filterMap
        fun index => movable[index - start]? := by
    induction movable generalizing start with
    | nil => rfl
    | cons element later ih =>
        have shifted : ∀ index ∈ (List.range' (start + 1) later.length).filter
            (fun index => (grants.lookup index).isNone),
            later[index - (start + 1)]? = (element :: later)[index - start]? := by
          intro index member
          have low := (List.mem_range'_1.mp (List.mem_filter.mp member).1).1
          rw [show index - start = index - (start + 1) + 1 by omega, List.getElem?_cons_succ]
        rw [List.zipIdx_cons, List.filterMap_cons, ih, List.filterMap_congr shifted, List.length_cons,
          List.range'_succ, List.filter_cons]
        cases grants.lookup start <;> simp
  simpa [ungranted, withNumbers, numbers] using counted 1

def groupOf (grants : Grants) (label : Text) : Group :=
  { label, isDefault := label = default
    elements := Element.shared elements ++
      withNumbers (Element.movable elements) (numbers (Element.movable elements).length grants default label) }

theorem groupsOf_eq_map (grants : Grants) : groupsOf elements (default :: rest) grants =
    (default :: rest).eraseDups.map (groupOf elements default grants) := by
  rw [groupsOf, List.eraseDups_cons]
  simp only [List.map_cons]
  congr 1
  · simp [groupOf, ungranted_eq_numbers (Element.movable elements) grants default]
  · refine List.map_congr_left fun label member => ?_
    have differs : label ≠ default := by
      have := (List.mem_filter.mp (List.mem_eraseDups.mp member)).2
      simpa using this
    simp [groupOf, differs, grantedTo_eq_numbers _ _ differs]

theorem mem_movable {element : Element} (h : element ∈ Element.movable elements) : element.isMovable = true :=
  (List.mem_filter.mp h).2

theorem groupOf_movable (grants : Grants) (label : Text) : (groupOf elements default grants label).movable =
    withNumbers (Element.movable elements)
      (numbers (Element.movable elements).length grants default label) := by
  have numbered : ∀ element ∈ withNumbers (Element.movable elements)
      (numbers (Element.movable elements).length grants default label), element.isMovable = true := by
    intro element member
    obtain ⟨index, -, found⟩ := List.mem_filterMap.mp member
    exact mem_movable elements (List.mem_of_getElem? found)
  have shared : (Element.shared elements).filter Element.isMovable = [] := by
    simp [Element.shared, List.filter_filter]
  rw [Group.movable, Element.movable, groupOf, List.filter_append, shared, List.nil_append,
    List.filter_eq_self.mpr numbered]

theorem groupOf_shared (grants : Grants) (label : Text) :
    (groupOf elements default grants label).shared = Element.shared elements := by
  have numbered : (withNumbers (Element.movable elements)
      (numbers (Element.movable elements).length grants default label)).filter
        (fun element => !element.isMovable) = [] := by
    refine List.filter_eq_nil_iff.mpr fun element member => ?_
    obtain ⟨index, -, found⟩ := List.mem_filterMap.mp member
    simp [mem_movable elements (List.mem_of_getElem? found)]
  rw [Group.shared, Element.shared, groupOf, List.filter_append, numbered, List.append_nil]
  simp [Element.shared, List.filter_filter]

theorem exists_eq_groupOf {group : Group}
    (member : group ∈ (assign elements (default :: rest) selections).groups) :
    ∃ label, group = groupOf elements default (grantsOf elements (default :: rest) selections) label := by
  change group ∈ groupsOf elements (default :: rest) _ at member
  rw [groupsOf_eq_map] at member
  obtain ⟨label, -, same⟩ := List.mem_map.mp member
  exact ⟨label, same.symm⟩

theorem elements_eq_shared_append_movable {group : Group}
    (member : group ∈ (assign elements (default :: rest) selections).groups) :
    group.elements = group.shared ++ group.movable := by
  obtain ⟨label, rfl⟩ := exists_eq_groupOf elements default rest selections member
  rw [groupOf_shared, groupOf_movable]
  rfl

theorem mem_of_mem_group {group : Group}
    (member : group ∈ (assign elements (default :: rest) selections).groups) {element : Element}
    (inGroup : element ∈ group.elements) : element ∈ elements := by
  obtain ⟨label, rfl⟩ := exists_eq_groupOf elements default rest selections member
  rcases List.mem_append.mp inGroup with shared | numbered
  · exact (List.mem_filter.mp shared).1
  · obtain ⟨index, -, found⟩ := List.mem_filterMap.mp numbered
    exact (List.mem_filter.mp (List.mem_of_getElem? found)).1

theorem ungranted_nil (movable : List Element) : ungranted movable [] = movable := by
  simp [ungranted]

theorem assign_singleton (label : Text) : (assign elements [label] selections).groups =
    [⟨label, true, Element.shared elements ++ Element.movable elements⟩] := by
  have grants : grantsOf elements [label] selections = [] := by
    rw [grantsOf_eq_grantsAfter]
    rfl
  change groupsOf elements [label] (grantsOf elements [label] selections) = _
  rw [grants, groupsOf, List.eraseDups_cons]
  simp [ungranted_nil]

theorem withNumbers_range' (movable : List Element) :
    withNumbers movable (List.range' 1 movable.length) = movable := by
  have all := ungranted_eq_numbers movable [] []
  simp only [numbers, if_true, List.lookup_nil, Option.isNone_none, List.filter_true] at all
  rw [← all, ungranted_nil]

/-! ## The partition -/

theorem owner_mem (index : Nat) : owner default rest selections index ∈ (default :: rest).eraseDups := by
  rw [List.mem_eraseDups, owner]
  cases found : rest.find? fun label => label ≠ default && asksFor selections index label with
  | none => exact List.mem_cons_self
  | some label => exact List.mem_cons_of_mem _ (List.mem_of_find?_eq_some found)

theorem numbers_grantsOf_perm (label : Text) :
    (numbers (Element.movable elements).length (grantsOf elements (default :: rest) selections) default
        label).Perm
      ((List.range' 1 (Element.movable elements).length).filter fun index =>
        owner default rest selections index = label) := by
  have distinct := (grantsOf_wellFormed elements default rest selections).nodup_numbers default label
  refine (List.perm_ext_iff_of_nodup distinct ((List.nodup_range' 1).filter _)).mpr fun index => ?_
  rw [mem_numbers_grantsOf, List.mem_filter, List.mem_range'_1, decide_eq_true_eq]
  constructor
  · rintro ⟨low, high, same⟩
    exact ⟨⟨low, Nat.lt_one_add_iff.mpr high⟩, same⟩
  · rintro ⟨⟨low, high⟩, same⟩
    exact ⟨low, Nat.lt_one_add_iff.mp high, same⟩

theorem flatMap_movable_perm :
    ((assign elements (default :: rest) selections).groups.flatMap Group.movable).Perm
      (Element.movable elements) := by
  let movable := Element.movable elements
  let grants := grantsOf elements (default :: rest) selections
  let labels := (default :: rest).eraseDups
  have groups : (assign elements (default :: rest) selections).groups.flatMap Group.movable =
      labels.flatMap fun label => withNumbers movable (numbers movable.length grants default label) := by
    change (groupsOf elements (default :: rest) grants).flatMap Group.movable = _
    rw [groupsOf_eq_map, List.flatMap_map]
    exact List.flatMap_congr fun label _ => groupOf_movable elements default grants label
  rw [groups]
  calc (labels.flatMap fun label => withNumbers movable (numbers movable.length grants default label))
    _ = withNumbers movable (labels.flatMap (numbers movable.length grants default)) := by
        simp only [withNumbers, List.filterMap_flatMap]
    _ |>.Perm (withNumbers movable (labels.flatMap fun label => (List.range' 1 movable.length).filter
          fun index => owner default rest selections index = label)) :=
        (List.Perm.flatMap_left _ fun label _ =>
          numbers_grantsOf_perm elements default rest selections label).filterMap _
    _ |>.Perm (withNumbers movable (List.range' 1 movable.length)) :=
        (Lists.flatMap_filter_perm _ _ (Lists.nodup_eraseDups _) _
          fun index _ => owner_mem default rest selections index).filterMap _
    _ = movable := withNumbers_range' movable

theorem assign_partition :
    let movable := Element.movable elements
    let groups := (assign elements (default :: rest) selections).groups
    groups.map Group.label = (default :: rest).eraseDups ∧ (groups.map Group.label).Nodup ∧
    (∀ group ∈ groups, (group.isDefault = true ↔ group.label = default) ∧
      group.shared = Element.shared elements ∧
      ∃ indices : List Nat, indices.Nodup ∧
        (∀ index, index ∈ indices ↔ 1 ≤ index ∧ index ≤ movable.length ∧
          owner default rest selections index = group.label) ∧
        group.movable = indices.filterMap fun index => movable[index - 1]?) ∧
    (groups.flatMap Group.movable).Perm movable := by
  intro movable groups
  let grants := grantsOf elements (default :: rest) selections
  have labels : groups.map Group.label = (default :: rest).eraseDups := by
    change (groupsOf elements (default :: rest) grants).map Group.label = _
    rw [groupsOf_eq_map, List.map_map]
    exact List.map_id' _
  refine ⟨labels, labels ▸ Lists.nodup_eraseDups _, ?_, flatMap_movable_perm elements default rest selections⟩
  intro group member
  obtain ⟨label, rfl⟩ := exists_eq_groupOf elements default rest selections member
  refine ⟨decide_eq_true_iff, groupOf_shared elements default grants label,
    numbers movable.length grants default label, ?_, ?_, groupOf_movable elements default grants label⟩
  · exact (grantsOf_wellFormed elements default rest selections).nodup_numbers default label
  · intro index
    exact mem_numbers_grantsOf elements default rest selections

end ScriptSplit.Assignment
