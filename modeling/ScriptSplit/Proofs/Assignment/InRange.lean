import ScriptSplit.Proofs.Assignment.Rulings
import Mathlib.Data.List.Find

namespace ScriptSplit.Assignment
open ScriptSplit.Lists

def askedInRange (count : Nat) (selections : Selections) (label : Text) : List Nat :=
  (asked selections label).filter fun index => 1 ≤ index ∧ index ≤ count

theorem askedInRange_congr {first second : Selections} {label : Text}
    (agree : first.lookup label = second.lookup label) (count : Nat) :
    askedInRange count first label = askedInRange count second label := by
  rw [askedInRange, asked, agree, askedInRange, asked]

theorem asksFor_eq_contains (selections : Selections) (index : Nat) (label : Text) :
    asksFor selections index label = (asked selections label).contains index := by
  rw [asksFor, asked]
  cases selections.lookup label <;> rfl

section Label
variable {count : Nat} {first second : Selections} {before : List Text} {label : Text}

theorem refusal?_congr_inRange
    (alike : ∀ other ∈ before, askedInRange count first other = askedInRange count second other) :
    refusal? count first before label = refusal? count second before label := by
  funext index
  by_cases outside : index = 0 ∨ count < index
  · rw [refusal?_of_outside outside, refusal?_of_outside outside]
  · have inside : 1 ≤ index ∧ index ≤ count := by omega
    have asks : before.find? (asksFor first index) = before.find? (asksFor second index) := by
      apply List.find?_congr
      intro other member
      have same := congrArg (fun asked => asked.contains index) (alike other member)
      simpa [askedInRange, asksFor_eq_contains, inside] using same
    rw [refusal?, refusal?, asks]

theorem held_eq_askedInRange (count : Nat) (selections : Selections) (before : List Text) (label : Text) :
    held count selections before label = (firsts (askedInRange count selections label)).filter fun index =>
      (refusal? count selections before label index).isNone := by
  rw [askedInRange, firsts_filter, List.filter_filter, held]
  apply List.filter_congr
  intro index _
  by_cases outside : index = 0 ∨ count < index
  · rw [refusal?_of_outside outside]
    rfl
  · have inside : 1 ≤ index ∧ index ≤ count := by omega
    simp [inside]

theorem held_congr_inRange
    (alike : ∀ other ∈ before, askedInRange count first other = askedInRange count second other)
    (own : askedInRange count first label = askedInRange count second label) :
    held count first before label = held count second before label := by
  rw [held_eq_askedInRange, held_eq_askedInRange, own, refusal?_congr_inRange alike]

theorem issuesFor_congr_inRange
    (alike : ∀ other ∈ before, askedInRange count first other = askedInRange count second other)
    (own : first.lookup label = second.lookup label) :
    issuesFor count first before label = issuesFor count second before label := by
  unfold issuesFor asked ignored
  rw [own, refusal?_congr_inRange alike]

end Label

theorem groups_congr {elements : List Element} {destinations : List Text} {first second : Selections}
    (alike : ∀ label ∈ others destinations, askedInRange (Element.movable elements).length first label =
      askedInRange (Element.movable elements).length second label) :
    (assign elements destinations first).groups = (assign elements destinations second).groups := by
  have granted : grantsOf elements destinations first = grantsOf elements destinations second := by
    rw [grantsOf_eq_held, grantsOf_eq_held]
    apply List.flatMap_congr
    rintro ⟨before, label⟩ heard
    obtain ⟨later, split⟩ := mem_withPast_iff.mp heard
    have listed (other : Text) (known : other ∈ before ++ [label]) : other ∈ others destinations := by
      rw [split, List.append_cons]
      exact List.mem_append_left later known
    have same := held_congr_inRange
      (fun other known => alike other (listed other (List.mem_append_left [label] known)))
      (alike label (listed label (by simp)))
    simp only [same]
  exact congrArg (groupsOf elements destinations) granted

theorem filter_issues_congr {elements : List Element} (default : Text) (rest : List Text) {first second : Selections}
    {label : Text} (alike : ∀ other, askedInRange (Element.movable elements).length first other =
      askedInRange (Element.movable elements).length second other)
    (elsewhere : ∀ other ≠ label, first.lookup other = second.lookup other) :
    ((assign elements (default :: rest) first).issues.filter fun issue => issue.destination ≠ label) =
      (assign elements (default :: rest) second).issues.filter fun issue => issue.destination ≠ label := by
  rw [issues_eq_issuesFor, issues_eq_issuesFor, List.filter_flatMap, List.filter_flatMap]
  apply List.flatMap_congr
  rintro ⟨before, other⟩ _
  by_cases same : other = label
  · have gone (selections : Selections) : (issuesFor (Element.movable elements).length selections before other).filter
        (fun issue => issue.destination ≠ label) = [] := by
      apply List.filter_eq_nil_iff.mpr
      intro issue told
      simp [destination_of_mem_issuesFor told, same]
    exact (gone first).trans (gone second).symm
  · exact congrArg (List.filter _) (issuesFor_congr_inRange (fun earlier _ => alike earlier) (elsewhere other same))

end ScriptSplit.Assignment
