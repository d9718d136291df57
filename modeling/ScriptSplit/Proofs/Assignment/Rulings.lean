import ScriptSplit.Proofs.Assignment.Groups
import ScriptSplit.Proofs.Lists.Past

namespace ScriptSplit.Assignment
open ScriptSplit.Lists

theorem hear_eq_map_withPast (count : Nat) (grants : Grants) (requests : List Request) :
    hear count grants requests = (withPast requests).map fun (before, request) =>
      rule count (grantsAfter count grants before) request := by
  induction requests generalizing grants with
  | nil => rfl
  | cons request rest ih =>
      have start : grantsAfter count grants [] = grants := by simp [grantsAfter, hear]
      simp only [hear, ih, withPast, List.map_cons, List.map_map, Function.comp_def, grantsAfter_cons, start]

def requestsFrom (selections : Selections) (label : Text) : List Request :=
  ((selections.lookup label).map (requestsOf label)).getD []

def asked (selections : Selections) (label : Text) : List Nat :=
  ((selections.lookup label).getD {}).indices

def ignored (selections : Selections) (label : Text) : List Text :=
  ((selections.lookup label).getD {}).ignored

def refusal? (count : Nat) (selections : Selections) (before : List Text) (label : Text) (index : Nat) :
    Option Issue :=
  if index = 0 ∨ count < index then some ⟨label, some index, .outOfRange count⟩
  else (before.find? (asksFor selections index)).map fun holder => ⟨label, some index, .alreadyClaimed holder⟩

def verdict (count : Nat) (selections : Selections) (before : List Text) (label : Text) (earlier : List Nat)
    (index : Nat) : Ruling :=
  match refusal? count selections before label index with
  | some issue => .refused issue
  | none => if index ∈ earlier then .repeated label index else .granted label index

def verdicts (count : Nat) (selections : Selections) (before : List Text) (label : Text) : List Ruling :=
  if asked selections label = [] ∧ ignored selections label ≠ [] then [.refused ⟨label, none, .noNumbers⟩]
  else (withPast (asked selections label)).map fun (earlier, index) =>
    verdict count selections before label earlier index

def held (count : Nat) (selections : Selections) (before : List Text) (label : Text) : List Nat :=
  (firsts (asked selections label)).filter fun index => (refusal? count selections before label index).isNone

def issuesFor (count : Nat) (selections : Selections) (before : List Text) (label : Text) : List Issue :=
  if asked selections label = [] ∧ ignored selections label ≠ [] then [⟨label, none, .noNumbers⟩]
  else (asked selections label).filterMap (refusal? count selections before label)

section Label
variable {count : Nat} {selections : Selections} {before : List Text} {label : Text} {index : Nat}
  {issue : Issue}

theorem requestsFrom_eq_asked (selections : Selections) (label : Text) : requestsFrom selections label =
    if asked selections label = [] ∧ ignored selections label ≠ [] then [.wordsOnly label]
    else (asked selections label).map (.number label) := by
  rw [requestsFrom, asked, ignored]
  cases selections.lookup label with
  | none => rfl
  | some selection =>
      obtain ⟨indices, words⟩ := selection
      cases indices <;> cases words <;> rfl

theorem rule_eq_verdict (fresh : label ∉ before) (earlier : List Nat) (index : Nat) :
    rule count (grantsAfter count [] (before.flatMap (requestsFrom selections) ++ earlier.map (.number label)))
      (.number label index) = verdict count selections before label earlier index := by
  by_cases outside : index = 0 ∨ count < index
  · simp [rule, verdict, refusal?, outside]
  · have others : (before.flatMap (requestsFrom selections)).findSome? (Request.asker? index) =
        before.find? (asksFor selections index) := findSome?_flatMap_requestsOf before selections index
    have low : 0 < index := by omega
    have high : index ≤ count := by omega
    have granted := lookup_grantsAfter low high []
      (before.flatMap (requestsFrom selections) ++ earlier.map (.number label))
    rw [List.findSome?_append, findSome?_map_number, others, List.lookup_nil, Option.none_or] at granted
    rw [rule, if_neg outside, granted, verdict, refusal?, if_neg outside]
    cases claimed : before.find? (asksFor selections index) with
    | some holder =>
        have differs : holder ≠ label := fun same => fresh (same ▸ List.mem_of_find?_eq_some claimed)
        simp [differs]
    | none => by_cases again : index ∈ earlier <;> simp [again]

theorem filterMap_grant?_verdicts : (verdicts count selections before label).filterMap Ruling.grant? =
    (held count selections before label).map fun index => (index, label) := by
  unfold verdicts
  split
  · rename_i words
    simp [held, words.1, firsts, withPast, Ruling.grant?]
  · rw [List.filterMap_map, held, firsts, List.filter_filterMap, List.map_filterMap]
    apply List.filterMap_congr
    rintro ⟨earlier, index⟩ -
    cases refused : refusal? count selections before label index <;>
      by_cases again : index ∈ earlier <;> simp [verdict, refused, again, Ruling.grant?, Option.filter]

theorem filterMap_issue?_verdicts : (verdicts count selections before label).filterMap Ruling.issue? =
    issuesFor count selections before label := by
  unfold verdicts issuesFor
  split
  · rfl
  · rw [List.filterMap_map]
    conv_rhs => rw [← map_snd_withPast (asked selections label), List.filterMap_map]
    apply List.filterMap_congr
    rintro ⟨earlier, index⟩ -
    cases refused : refusal? count selections before label index <;>
      by_cases again : index ∈ earlier <;> simp [verdict, refused, again, Ruling.issue?]

theorem refusal?_of_outside (outside : index = 0 ∨ count < index) :
    refusal? count selections before label index = some ⟨label, some index, .outOfRange count⟩ := if_pos outside

theorem refusal?_eq_some (refused : refusal? count selections before label index = some issue) :
    issue.destination = label ∧ issue.index = some index := by
  unfold refusal? at refused
  split at refused
  · cases refused
    exact ⟨rfl, rfl⟩
  · obtain ⟨holder, -, rfl⟩ := Option.map_eq_some_iff.mp refused
    exact ⟨rfl, rfl⟩

theorem exists_refusal_of_mem_issuesFor (told : issue ∈ issuesFor count selections before label) :
    issue = ⟨label, none, .noNumbers⟩ ∨
      ∃ index ∈ asked selections label, refusal? count selections before label index = some issue := by
  unfold issuesFor at told
  split at told
  · exact .inl (List.mem_singleton.mp told)
  · exact .inr (List.mem_filterMap.mp told)

theorem destination_of_mem_issuesFor (told : issue ∈ issuesFor count selections before label) :
    issue.destination = label := by
  rcases exists_refusal_of_mem_issuesFor told with rfl | ⟨index, -, refused⟩
  · rfl
  · exact (refusal?_eq_some refused).1

theorem held_and_issuesFor_of_none (none : selections.lookup label = none) :
    held count selections before label = [] ∧ issuesFor count selections before label = [] := by
  have quiet : asked selections label = [] := by rw [asked, none, Option.getD_none]
  have wordless : ignored selections label = [] := by rw [ignored, none, Option.getD_none]
  constructor
  · rw [held, quiet]
    rfl
  · rw [issuesFor, quiet, wordless, if_neg (by simp)]
    rfl

end Label

section Labels
variable (elements : List Element) (destinations : List Text) (selections : Selections)

theorem rulings_eq_verdicts : rulings elements destinations selections =
    (withPast (others destinations)).flatMap fun (before, label) =>
      verdicts (Element.movable elements).length selections before label := by
  change hear _ [] ((others destinations).flatMap (requestsFrom selections)) = _
  rw [hear_eq_map_withPast, withPast_flatMap, List.map_flatMap]
  apply List.flatMap_congr
  rintro ⟨before, label⟩ member
  have fresh : label ∉ before := not_mem_past_of_nodup (nodup_others destinations) member
  simp only [List.map_map]
  rw [requestsFrom_eq_asked, verdicts]
  split
  · rfl
  · simp [withPast_map, rule_eq_verdict fresh]

theorem grantsOf_eq_held : grantsOf elements destinations selections =
    (withPast (others destinations)).flatMap fun (before, label) =>
      (held (Element.movable elements).length selections before label).map fun index => (index, label) := by
  rw [grantsOf, rulings_eq_verdicts, List.filterMap_flatMap]
  simp only [filterMap_grant?_verdicts]

theorem issues_eq_issuesFor : (assign elements destinations selections).issues =
    (withPast (others destinations)).flatMap fun (before, label) =>
      issuesFor (Element.movable elements).length selections before label := by
  change (rulings elements destinations selections).filterMap Ruling.issue? = _
  rw [rulings_eq_verdicts, List.filterMap_flatMap]
  simp only [filterMap_issue?_verdicts]

variable {destinations} {before later : List Text} {label : Text}

theorem filter_grantsOf (split : others destinations = before ++ label :: later) :
    (grantsOf elements destinations selections).filter (fun grant => grant.2 = label) =
      (held (Element.movable elements).length selections before label).map fun index => (index, label) := by
  have distinct := nodup_others destinations
  rw [grantsOf_eq_held]
  rw [split] at distinct ⊢
  apply filter_flatMap_withPast _ distinct
  intro entry grant member
  obtain ⟨index, -, rfl⟩ := List.mem_map.mp member
  rfl

theorem filter_issues (split : others destinations = before ++ label :: later) :
    (assign elements destinations selections).issues.filter (fun issue => issue.destination = label) =
      issuesFor (Element.movable elements).length selections before label := by
  have distinct := nodup_others destinations
  rw [issues_eq_issuesFor]
  rw [split] at distinct ⊢
  exact filter_flatMap_withPast (fun _ _ told => destination_of_mem_issuesFor told) distinct

end Labels

section Groups
variable {elements : List Element} {default : Text} {rest : List Text} {selections : Selections}
  {before later : List Text} {label : Text}

theorem numbers_eq_held (split : others (default :: rest) = before ++ label :: later) :
    numbers (Element.movable elements).length (grantsOf elements (default :: rest) selections) default label =
      held (Element.movable elements).length selections before label := by
  have listed : label ∈ others (default :: rest) := by simp [split]
  rw [numbers, if_neg (mem_others_iff.mp listed).2, filter_grantsOf elements selections split, List.map_map]
  exact List.map_id' _

end Groups

end ScriptSplit.Assignment
