import ScriptSplit.Proofs.Assignment.Rulings
import Mathlib.Algebra.BigOperators.Group.List.Basic

namespace ScriptSplit.Assignment
open ScriptSplit.Lists

section Label
variable {count : Nat} {selections : Selections} {before : List Text} {label : Text} {index : Nat}
  {issue : Issue}

def heardAgain (count : Nat) (selections : Selections) (before : List Text) (label : Text) : List Nat :=
  (repeats (asked selections label)).filter fun index => (refusal? count selections before label index).isNone

theorem refusal?_eq_alreadyClaimed {holder : Text} (refused : refusal? count selections before label index = some issue)
    (claimed : issue.reason = .alreadyClaimed holder) :
    1 ≤ index ∧ index ≤ count ∧ before.find? (asksFor selections index) = some holder := by
  unfold refusal? at refused
  split at refused
  · cases refused
    cases claimed
  · obtain ⟨other, found, rfl⟩ := Option.map_eq_some_iff.mp refused
    cases claimed
    exact ⟨by omega, by omega, found⟩

theorem numbered_issuesFor (count : Nat) (selections : Selections) (before : List Text) (label : Text) :
    (issuesFor count selections before label).filter (fun issue => issue.index.isSome) =
      (asked selections label).filterMap (refusal? count selections before label) := by
  unfold issuesFor
  split
  · rename_i words
    simp [words.1]
  · apply List.filter_eq_self.mpr
    intro issue member
    obtain ⟨index, -, refused⟩ := List.mem_filterMap.mp member
    rw [(refusal?_eq_some refused).2]
    rfl

theorem length_asked (count : Nat) (selections : Selections) (before : List Text) (label : Text) :
    (asked selections label).length = (held count selections before label).length +
      ((issuesFor count selections before label).filter fun issue => issue.index.isSome).length +
        (heardAgain count selections before label).length := by
  let free (index : Nat) : Bool := (refusal? count selections before label index).isNone
  have kept : (held count selections before label).length + (heardAgain count selections before label).length =
      (asked selections label).countP free := by
    rw [← (firsts_append_repeats_perm (asked selections label)).countP_eq free, List.countP_append,
      List.countP_eq_length_filter, List.countP_eq_length_filter]
    rfl
  have refused : ((asked selections label).filterMap (refusal? count selections before label)).length =
      (asked selections label).countP fun index => ¬ free index := by
    rw [List.length_filterMap_eq_countP]
    apply List.countP_congr
    intro index _
    cases found : refusal? count selections before label index <;> simp [free, found]
  have all := List.length_eq_countP_add_countP free (l := asked selections label)
  rw [numbered_issuesFor, refused]
  omega

end Label

/-- The groups and issues of an assignment answer the requests of all destinations but the first, label by
label. -/
structure Accounted (elements : List Element) (destinations : List Text) (selections : Selections) : Prop where
  issues : (assign elements destinations selections).issues =
    (withPast (others destinations)).flatMap fun (before, label) =>
      issuesFor (Element.movable elements).length selections before label
  granted : ∀ entry ∈ withPast (others destinations), ∃ group,
    (assign elements destinations selections).group? entry.2 = some group ∧ group.isDefault = false ∧
      group.HasNumbers (Element.movable elements)
        (held (Element.movable elements).length selections entry.1 entry.2)
  claimed : ∀ issue ∈ (assign elements destinations selections).issues, ∀ holder,
    issue.reason = .alreadyClaimed holder → [holder, issue.destination].Sublist (others destinations) ∧
      ∃ index group indices, issue.index = some index ∧
        (assign elements destinations selections).group? holder = some group ∧ group.isDefault = false ∧
          group.HasNumbers (Element.movable elements) indices ∧ index ∈ indices
  total : ((others destinations).flatMap (asked selections)).length =
    (((assign elements destinations selections).groups.filter fun group => !group.isDefault).flatMap
        Group.movable).length +
      ((assign elements destinations selections).issues.filter fun issue => issue.index.isSome).length +
        ((withPast (others destinations)).flatMap fun (before, label) =>
          heardAgain (Element.movable elements).length selections before label).length

variable (elements : List Element) (default : Text) (rest : List Text) (selections : Selections)

theorem claimed_of_mem_issues {issue : Issue}
    (told : issue ∈ (assign elements (default :: rest) selections).issues) {holder : Text}
    (claimed : issue.reason = .alreadyClaimed holder) :
    [holder, issue.destination].Sublist (others (default :: rest)) ∧
      ∃ index, issue.index = some index ∧ 1 ≤ index ∧ index ≤ (Element.movable elements).length ∧
        owner default rest selections index = holder := by
  rw [issues_eq_issuesFor] at told
  obtain ⟨⟨before, label⟩, heard, told⟩ := List.mem_flatMap.mp told
  obtain ⟨later, split⟩ := mem_withPast_iff.mp heard
  rcases exists_refusal_of_mem_issuesFor told with rfl | ⟨index, -, refused⟩
  · cases claimed
  · obtain ⟨destination, numbered⟩ := refusal?_eq_some refused
    obtain ⟨low, high, found⟩ := refusal?_eq_alreadyClaimed refused claimed
    constructor
    · rw [destination, split]
      apply List.Sublist.append (List.singleton_sublist.mpr (List.mem_of_find?_eq_some found))
      exact List.singleton_sublist.mpr List.mem_cons_self
    · refine ⟨index, numbered, low, high, ?_⟩
      rw [owner, ← find?_others, split, List.find?_append, found]
      rfl

theorem length_requested : ((others (default :: rest)).flatMap (asked selections)).length =
    (((assign elements (default :: rest) selections).groups.filter fun group => !group.isDefault).flatMap
        Group.movable).length +
      ((assign elements (default :: rest) selections).issues.filter fun issue => issue.index.isSome).length +
        ((withPast (others (default :: rest))).flatMap fun (before, label) =>
          heardAgain (Element.movable elements).length selections before label).length := by
  let heard := withPast (others (default :: rest))
  have labels : heard.map Prod.snd = others (default :: rest) := map_snd_withPast _
  have requested : ((others (default :: rest)).flatMap (asked selections)).length =
      (heard.map fun entry => (asked selections entry.2).length).sum := by
    rw [List.length_flatMap, ← labels, List.map_map]
    rfl
  have granted : (((assign elements (default :: rest) selections).groups.filter fun group =>
      !group.isDefault).flatMap Group.movable).length =
        (heard.map fun entry => (held (Element.movable elements).length selections entry.1 entry.2).length).sum := by
    rw [filter_not_isDefault_groups, List.flatMap_map, List.length_flatMap, ← labels, List.map_map]
    apply congrArg List.sum
    apply List.map_congr_left
    intro entry member
    obtain ⟨later, split⟩ := mem_withPast_iff.mp member
    exact (groupOf_hasNumbers entry.2).length_movable.trans (congrArg List.length (numbers_eq_held split))
  rw [requested, granted, issues_eq_issuesFor, List.filter_flatMap, List.length_flatMap, List.length_flatMap,
    ← List.sum_map_add, ← List.sum_map_add]
  apply congrArg List.sum
  apply List.map_congr_left
  intro entry _
  exact length_asked _ selections entry.1 entry.2

theorem requests_accounted : Accounted elements (default :: rest) selections := by
  refine ⟨issues_eq_issuesFor elements (default :: rest) selections, ?_, ?_,
    length_requested elements default rest selections⟩
  · intro entry heard
    obtain ⟨later, split⟩ := mem_withPast_iff.mp heard
    rw [← numbers_eq_held split]
    exact exists_group_of_mem_others elements default rest selections (snd_mem_of_mem_withPast heard)
  · intro issue told holder claimed
    obtain ⟨heard, index, numbered, low, high, owned⟩ :=
      claimed_of_mem_issues elements default rest selections told claimed
    have listed : holder ∈ others (default :: rest) := heard.subset List.mem_cons_self
    obtain ⟨group, found, later, numbers⟩ := exists_group_of_mem_others elements default rest selections listed
    exact ⟨heard, index, group, _, numbered, found, later, numbers,
      (mem_numbers_grantsOf elements default rest selections).mpr ⟨low, high, owned⟩⟩

end ScriptSplit.Assignment
