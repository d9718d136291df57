import ScriptSplit.Proofs.Assignment.Rulings

namespace ScriptSplit.Assignment
open ScriptSplit.Lists

structure Heard (assignment : Assignment) (selections : Selections) (label : Text) (movable : List Element)
    (issues : List Issue) : Prop where
  group : ∃ group, assignment.group? label = some group ∧ group.movable = movable
  issues : ∃ others, assignment.issues = issues ++ others ∧
    ∀ issue ∈ others, issue.destination ≠ label ∧ (selections.lookup issue.destination).isSome = true

variable {elements : List Element} {destinations : List Text} {selections : Selections}
  {default label : Text} {later : List Text} {index : Nat}

section One
variable {count : Nat} {before : List Text}

theorem held_of_asked (asked : selections.lookup label = some ⟨[index], []⟩) :
    held count selections before label =
      if (refusal? count selections before label index).isNone then [index] else [] := by
  rw [held, Assignment.asked, asked, Option.getD_some, firsts_of_nodup (List.nodup_singleton index),
    List.filter_singleton]
  cases refusal? count selections before label index <;> rfl

theorem issuesFor_of_asked (asked : selections.lookup label = some ⟨[index], []⟩) :
    issuesFor count selections before label = (refusal? count selections before label index).toList := by
  rw [issuesFor, Assignment.asked, asked, Option.getD_some, if_neg (by simp), List.filterMap_cons]
  cases refusal? count selections before label index <;> rfl

theorem refusal?_nil (inside : ¬ (index = 0 ∨ count < index)) : refusal? count selections [] label index = none := by
  rw [refusal?, if_neg inside]
  rfl

end One

theorem others_of_second (second : destinations.eraseDups = default :: label :: later) :
    others destinations = label :: later := congrArg List.tail second

theorem group?_of_second (second : destinations.eraseDups = default :: label :: later) :
    ∃ group, (assign elements destinations selections).group? label = some group ∧
      group.movable = withNumbers (Element.movable elements)
        (held (Element.movable elements).length selections [] label) := by
  obtain ⟨rest, rfl⟩ := exists_cons_of_eraseDups second
  have heard : others (default :: rest) = [] ++ label :: later := others_of_second second
  have listed : label ∈ default :: rest := by
    rw [← List.mem_eraseDups, second]
    simp
  refine ⟨_, group?_assign elements default rest selections listed, ?_⟩
  rw [groupOf_movable, numbers_eq_held heard]

theorem issues_of_second (second : destinations.eraseDups = default :: label :: later) :
    ∃ others, (assign elements destinations selections).issues =
        issuesFor (Element.movable elements).length selections [] label ++ others ∧
      ∀ issue ∈ others, issue.destination ≠ label ∧ (selections.lookup issue.destination).isSome = true := by
  have heard := others_of_second second
  have fresh : label ∉ later := (List.nodup_cons.mp (heard ▸ nodup_others destinations)).1
  rw [issues_eq_issuesFor, heard, withPast, List.flatMap_cons]
  refine ⟨_, rfl, ?_⟩
  intro issue told
  obtain ⟨entry, there, told⟩ := List.mem_flatMap.mp told
  obtain ⟨⟨before, other⟩, listed, rfl⟩ := List.mem_map.mp there
  have known := snd_mem_of_mem_withPast listed
  replace told : issue ∈ issuesFor _ selections (label :: before) other := told
  rw [destination_of_mem_issuesFor told]
  refine ⟨fun same => fresh (same ▸ known), ?_⟩
  by_contra none
  rw [(held_and_issuesFor_of_none (Option.not_isSome_iff_eq_none.mp none)).2] at told
  cases told

theorem heard_of_second (elements : List Element) (selections : Selections)
    (second : destinations.eraseDups = default :: label :: later) :
    (assign elements destinations selections).Heard selections label
      (withNumbers (Element.movable elements) (held (Element.movable elements).length selections [] label))
      (issuesFor (Element.movable elements).length selections [] label) :=
  ⟨group?_of_second second, issues_of_second second⟩

theorem heard_of_granted (second : destinations.eraseDups = default :: label :: later)
    (asked : selections.lookup label = some ⟨[index], []⟩) (low : 1 ≤ index) {element : Element}
    (found : (Element.movable elements)[index - 1]? = some element) :
    (assign elements destinations selections).Heard selections label [element] [] := by
  have high : index - 1 < (Element.movable elements).length := (List.getElem?_eq_some_iff.mp found).1
  have inside : ¬ (index = 0 ∨ (Element.movable elements).length < index) := by omega
  have heard := heard_of_second elements selections second
  rw [held_of_asked asked, issuesFor_of_asked asked, refusal?_nil inside] at heard
  simpa [withNumbers, found] using heard

theorem heard_of_refused (second : destinations.eraseDups = default :: label :: later)
    (asked : selections.lookup label = some ⟨[index], []⟩)
    (outside : index = 0 ∨ (Element.movable elements).length < index) :
    (assign elements destinations selections).Heard selections label []
      [⟨label, some index, .outOfRange (Element.movable elements).length⟩] := by
  have heard := heard_of_second elements selections second
  rwa [held_of_asked asked, issuesFor_of_asked asked, refusal?_of_outside outside] at heard

theorem default?_of_refused (second : destinations.eraseDups = default :: label :: later)
    (asked : selections.lookup label = some ⟨[index], []⟩)
    (outside : index = 0 ∨ (Element.movable elements).length < index)
    (alone : ∀ other, (selections.lookup other).isSome = true → other = label) :
    ∃ group, (assign elements destinations selections).default? = some group ∧
      group.movable = Element.movable elements := by
  have nothing (before : List Text) (other : Text) :
      held (Element.movable elements).length selections before other = [] := by
    cases found : selections.lookup other with
    | none => exact (held_and_issuesFor_of_none found).1
    | some selection =>
        obtain rfl : other = label := alone other (Option.isSome_of_eq_some found)
        rw [held_of_asked asked, refusal?_of_outside outside]
        rfl
  have grants : grantsOf elements destinations selections = [] := by
    rw [grantsOf_eq_held]
    apply List.flatMap_eq_nil_iff.mpr
    rintro ⟨before, other⟩ -
    simp only [nothing, List.map_nil]
  obtain ⟨rest, rfl⟩ := exists_cons_of_eraseDups second
  refine ⟨_, default?_assign elements default rest selections, ?_⟩
  rw [groupOf_movable, numbers, if_pos rfl, grants]
  simpa using withNumbers_range' (Element.movable elements)

end ScriptSplit.Assignment
