import ScriptSplit.Proofs.Assignment.InRange

namespace ScriptSplit.Assignment
open ScriptSplit.Lists

section Label
variable {count : Nat} {first second : Selections} {before : List Text} {label : Text}

theorem held_congr (agree : ∀ other ∈ before, first.lookup other = second.lookup other)
    (own : first.lookup label = second.lookup label) :
    held count first before label = held count second before label :=
  held_congr_inRange (fun other member => askedInRange_congr (agree other member) count) (askedInRange_congr own count)

theorem issuesFor_congr (agree : ∀ other ∈ before, first.lookup other = second.lookup other)
    (own : first.lookup label = second.lookup label) :
    issuesFor count first before label = issuesFor count second before label :=
  issuesFor_congr_inRange (fun other member => askedInRange_congr (agree other member) count) own

end Label

section Leading
variable (elements : List Element) (default : Text) (rest : List Text)

theorem filter_issuesFor_append (count : Nat) (selections : Selections) (named later : List Text)
    (apart : ∀ label ∈ later, label ∉ named) :
    (((withPast (named ++ later)).flatMap fun (before, label) => issuesFor count selections before label).filter
        fun issue => issue.destination ∈ named) =
      (withPast named).flatMap fun (before, label) => issuesFor count selections before label := by
  rw [withPast_append, List.flatMap_append, List.filter_append, List.filter_eq_self.mpr,
    List.filter_eq_nil_iff.mpr, List.append_nil]
  · intro issue told
    obtain ⟨entry, heard, told⟩ := List.mem_flatMap.mp told
    obtain ⟨⟨past, label⟩, there, rfl⟩ := List.mem_map.mp heard
    rw [destination_of_mem_issuesFor told, decide_eq_true_eq]
    exact apart label (snd_mem_of_mem_withPast there)
  · intro issue told
    obtain ⟨entry, heard, told⟩ := List.mem_flatMap.mp told
    rw [destination_of_mem_issuesFor told, decide_eq_true_eq]
    exact snd_mem_of_mem_withPast heard

theorem filter_issues_take (selections : Selections) (k : Nat) :
    ((assign elements (default :: rest) selections).issues.filter fun issue =>
        issue.destination ∈ (others (default :: rest)).take k) =
      (withPast ((others (default :: rest)).take k)).flatMap fun (before, label) =>
        issuesFor (Element.movable elements).length selections before label := by
  have apart : ∀ label ∈ (others (default :: rest)).drop k, label ∉ (others (default :: rest)).take k := by
    intro label later named
    have distinct := nodup_others (default :: rest)
    rw [← List.take_append_drop k (others (default :: rest))] at distinct
    exact (List.nodup_append.mp distinct).2.2 label named label later rfl
  have kept := filter_issuesFor_append (Element.movable elements).length selections _ _ apart
  rw [List.take_append_drop] at kept
  rw [issues_eq_issuesFor, kept]

theorem rulings_congr {first second : Selections}
    (agree : ∀ label ∈ others (default :: rest), first.lookup label = second.lookup label) :
    rulings elements (default :: rest) first = rulings elements (default :: rest) second := by
  have same : requests (default :: rest) first = requests (default :: rest) second := by
    apply List.flatMap_congr
    intro label listed
    rw [agree label listed]
  rw [rulings, same, rulings]

theorem groupOf_congr {first second : Selections} {before later : List Text} {label : Text}
    (split : others (default :: rest) = before ++ label :: later)
    (agree : ∀ other ∈ before, first.lookup other = second.lookup other)
    (own : first.lookup label = second.lookup label) :
    groupOf elements default (grantsOf elements (default :: rest) first) label =
      groupOf elements default (grantsOf elements (default :: rest) second) label := by
  rw [groupOf, numbers_eq_held split, held_congr agree own, groupOf, numbers_eq_held split]

theorem filter_take_eraseDups (k : Nat) :
    (((default :: rest).eraseDups.take k).filter fun label => label ≠ default) =
      (others (default :: rest)).take (k - 1) := by
  cases k with
  | zero => rfl
  | succ k =>
      rw [eraseDups_eq_cons_others, List.take_succ_cons, List.filter_cons_of_neg (by simp)]
      apply List.filter_eq_self.mpr
      intro label member
      exact decide_eq_true (mem_others_iff.mp (List.mem_of_mem_take member)).2

end Leading

structure Agree (labels : List Text) (one two : Assignment) : Prop where
  groups : ∀ label ∈ labels, ∃ group, one.group? label = some group ∧ two.group? label = some group
  issues : (one.issues.filter fun issue => issue.destination ∈ labels) =
    two.issues.filter fun issue => issue.destination ∈ labels

theorem assign_agree (elements : List Element) (default : Text) (rest : List Text) {first second : Selections}
    {k : Nat} (agree : ∀ label ∈ ((default :: rest).eraseDups.take k).filter fun label => label ≠ default,
      first.lookup label = second.lookup label) :
    let one := assign elements (default :: rest) first
    let two := assign elements (default :: rest) second
    Agree (((default :: rest).eraseDups.take k).filter fun label => label ≠ default) one two ∧
    ((∀ label ∈ rest, label ≠ default → first.lookup label = second.lookup label) → one = two) ∧
    ∀ issue ∈ one.issues, issue.destination ∈ rest ∧ issue.destination ≠ default := by
  intro one two
  rw [filter_take_eraseDups] at agree ⊢
  refine ⟨⟨?_, ?_⟩, ?_, ?_⟩
  · intro label named
    obtain ⟨before, between, taken⟩ := List.append_of_mem named
    have split : others (default :: rest) =
        before ++ label :: (between ++ (others (default :: rest)).drop (k - 1)) := by
      rw [← List.cons_append, ← List.append_assoc, ← taken, List.take_append_drop]
    have same := groupOf_congr elements default rest split
      (fun other member => agree other (by simp [taken, member])) (agree label named)
    have listed := mem_others_iff.mp (List.mem_of_mem_take named)
    have known : label ∈ default :: rest := List.mem_cons_of_mem default listed.1
    exact ⟨_, group?_assign elements default rest first known,
      same ▸ group?_assign elements default rest second known⟩
  · rw [filter_issues_take, filter_issues_take]
    apply List.flatMap_congr
    rintro ⟨before, label⟩ heard
    obtain ⟨between, split⟩ := mem_withPast_iff.mp heard
    apply issuesFor_congr
    · intro other member
      exact agree other (by simp [split, member])
    · exact agree label (by simp [split])
  · intro all
    have ruled := rulings_congr elements default rest fun label listed =>
      all label (mem_others_iff.mp listed).1 (mem_others_iff.mp listed).2
    simp only [one, two, assign, ruled]
  · intro issue told
    rw [issues_eq_issuesFor] at told
    obtain ⟨entry, heard, told⟩ := List.mem_flatMap.mp told
    rw [destination_of_mem_issuesFor told]
    exact mem_others_iff.mp (snd_mem_of_mem_withPast heard)

def rivalElements : List Element :=
  [⟨.functionDecl, "f", ["f"], 1⟩, ⟨.variableDecl, "x", ["x"], 2⟩, ⟨.classDecl, "C", ["C"], 3⟩,
    ⟨.functionDecl, "g", ["g"], 4⟩]

def rivalDestinations : List Text := ["b", "a", "c", "b", "d"]

def rivalSelections : Selections :=
  [("a", ⟨[1], []⟩), ("b", ⟨[2, 0, 2], []⟩), ("c", ⟨[3, 2], []⟩), ("d", ⟨[3, 1], []⟩)]

def otherSelections : Selections :=
  [("z", ⟨[2], []⟩), ("d", ⟨[], ["x"]⟩), ("c", ⟨[3, 2], []⟩), ("b", ⟨[2, 0, 2], []⟩)]

theorem assign_agree_rivals :
    let labels : List Text := ("a" : Text) :: rivalDestinations
    let one := assign rivalElements labels rivalSelections
    let two := assign rivalElements labels otherSelections
    ((labels.eraseDups.take 3).filter fun label => label ≠ "a".toList) = ["b", "c"] ∧
    Agree ["b", "c"] one two ∧ one ≠ two := by
  intro labels one two
  have named : ((labels.eraseDups.take 3).filter fun label => label ≠ "a".toList) = ["b", "c"] := by
    decide +kernel
  have agree : ∀ label ∈ (labels.eraseDups.take 3).filter fun label => label ≠ "a".toList,
      rivalSelections.lookup label = otherSelections.lookup label := by decide +kernel
  have same := (assign_agree rivalElements "a" rivalDestinations agree).1
  rw [named] at same
  exact ⟨named, same, by decide +kernel⟩

end ScriptSplit.Assignment
