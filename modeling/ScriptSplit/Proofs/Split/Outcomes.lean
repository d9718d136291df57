import ScriptSplit.Disk
import ScriptSplit.Proofs.Group.Conservation
import ScriptSplit.Proofs.Split.DryRun
import Mathlib.Algebra.GroupWithZero.Nat

namespace ScriptSplit

theorem Assignment.count_repetitions (label : Text) (seen labels : List Text) :
    (repetitions seen labels).count label =
      if label ∈ seen then labels.count label else labels.count label - 1 := by
  induction labels generalizing seen with
  | nil => simp [repetitions]
  | cons first rest ih =>
      by_cases known : first ∈ seen
      · by_cases same : first = label
        · subst same
          simp [repetitions, known, ih]
        · simp [repetitions, known, ih, List.count_cons_of_ne same]
      · by_cases same : first = label
        · subst same
          simp [repetitions, known, ih]
        · simp [repetitions, known, ih, List.count_cons_of_ne same, Ne.symm same]

def Config.owner (config : Config) (index : Nat) : Text :=
  Assignment.owner (config.destinations.headD []) config.destinations.tail config.parsedSelections index

namespace Assignment

variable (elements : List Element) (default : Text) (rest : List Text) (selections : Selections)

theorem withNumbers_eq_nil_iff {movable : List Element} {indices : List Nat}
    (inRange : ∀ index ∈ indices, 1 ≤ index ∧ index ≤ movable.length) :
    withNumbers movable indices = [] ↔ indices = [] := by
  refine ⟨fun none => List.eq_nil_iff_forall_not_mem.mpr fun index member => ?_, fun none => none ▸ rfl⟩
  obtain ⟨low, high⟩ := inRange index member
  have gone := List.filterMap_eq_nil_iff.mp none index member
  rw [List.getElem?_eq_none_iff] at gone
  omega

theorem groupOf_elements_eq_nil_iff (label : Text) :
    (groupOf elements default (grantsOf elements (default :: rest) selections) label).elements = [] ↔
      Element.shared elements = [] ∧ ∀ index, 1 ≤ index → index ≤ (Element.movable elements).length →
        owner default rest selections index ≠ label := by
  have numbered (index : Nat) : index ∈ numbers (Element.movable elements).length
        (grantsOf elements (default :: rest) selections) default label ↔ _ :=
    mem_numbers_grantsOf elements default rest selections
  -- A group holds what is shared and what its numbers stand for.
  rw [groupOf, List.append_eq_nil_iff, withNumbers_eq_nil_iff fun index member =>
    ⟨((numbered index).mp member).1, ((numbered index).mp member).2.1⟩]
  refine and_congr_right fun _ => List.eq_nil_iff_forall_not_mem.trans ?_
  simp only [numbered, not_and, ne_eq]

theorem exists_empty_group_iff (label : Text) :
    (∃ group ∈ (assign elements (default :: rest) selections).groups,
        group.label = label ∧ group.elements = []) ↔
      label ∈ default :: rest ∧ Element.shared elements = [] ∧
        ∀ index, 1 ≤ index → index ≤ (Element.movable elements).length →
          owner default rest selections index ≠ label := by
  change (∃ group ∈ groupsOf elements (default :: rest) _, _) ↔ _
  rw [groupsOf_eq_map, ← groupOf_elements_eq_nil_iff elements default rest selections, ← List.mem_eraseDups]
  constructor
  · rintro ⟨group, member, rfl, none⟩
    obtain ⟨label, listed, rfl⟩ := List.mem_map.mp member
    exact ⟨listed, none⟩
  · rintro ⟨listed, none⟩
    exact ⟨_, List.mem_map_of_mem listed, rfl, none⟩

end Assignment

namespace Split

namespace Outcome

def bare? : Outcome → Option Text
  | empty label => some label
  | _ => none

end Outcome

section Outcomes
variable {config : Config} {groups : List Group} {outcomes : List Outcome}

theorem count_labels (label : Text) (outcomes : List Outcome) :
    ((outcomes.filterMap Outcome.file?).map WrittenFile.label ++
        (outcomes.filterMap Outcome.failure?).map WriteFailure.label ++
          outcomes.filterMap Outcome.bare?).count label = (outcomes.map Outcome.label).count label := by
  induction outcomes with
  | nil => rfl
  | cons outcome rest ih =>
      simp only [List.count_append] at ih
      cases outcome <;>
        simp only [List.filterMap_cons, Outcome.file?, Outcome.failure?, Outcome.bare?, Outcome.label,
          List.map_cons, List.count_append, List.count_cons, ← ih] <;> omega

theorem filterMap_warning?_eq_map (outcomes : List Outcome) :
    outcomes.filterMap Outcome.warning? = (outcomes.filterMap Outcome.bare?).map .emptyDestination := by
  rw [List.map_filterMap]
  refine List.filterMap_congr fun outcome _ => ?_
  cases outcome <;> rfl

theorem mem_bare?_iff (settled : List.Forall₂ (Settled config) groups outcomes) (label : Text) :
    label ∈ outcomes.filterMap Outcome.bare? ↔ ∃ group ∈ groups, group.label = label ∧ group.elements = [] := by
  induction settled with
  | nil => simp
  | @cons group outcome groups outcomes first _ ih =>
      cases first with
      | empty bare =>
          have none := Group.text?_eq_none_iff.mp bare
          have shown : Outcome.bare? (.empty group.label) = some group.label := rfl
          rw [List.filterMap_cons_some shown, List.mem_cons, List.exists_mem_cons_iff, ih]
          simp only [none, and_true, eq_comm]
      | written content emitted =>
          have occupied := (Group.text?_eq_some_iff.mp emitted).1
          rw [List.filterMap_cons_none rfl, List.exists_mem_cons_iff, ih]
          simp only [occupied, and_false, false_or]
      | failed content error emitted =>
          have occupied := (Group.text?_eq_some_iff.mp emitted).1
          rw [List.filterMap_cons_none rfl, List.exists_mem_cons_iff, ih]
          simp only [occupied, and_false, false_or]

theorem sum_elementCount_of_dry (dry : config.dryRun = true)
    (settled : List.Forall₂ (Settled config) groups outcomes) :
    ((outcomes.filterMap Outcome.file?).map WrittenFile.elementCount).sum =
      (groups.flatMap Group.elements).length := by
  induction settled with
  | nil => rfl
  | @cons group outcome groups outcomes first _ ih =>
      cases first with
      | empty bare =>
          rw [List.filterMap_cons_none rfl, ih, List.flatMap_cons, Group.text?_eq_none_iff.mp bare, List.nil_append]
      | written content emitted =>
          have listed : Outcome.file? (.written (plannedFile config group content)) =
            some (plannedFile config group content) := rfl
          rw [List.filterMap_cons_some listed, List.map_cons, List.sum_cons, ih, List.flatMap_cons,
            List.length_append]
          rfl
      | failed content error emitted real => cases dry.symm.trans real

end Outcomes
end Split

def Warning.bare? : Warning → Option Text
  | emptyDestination label => some label
  | duplicateDestination _ => none

def Report.bareLabels (report : Report) : List Text := report.warnings.filterMap Warning.bare?

/-- A report accounts for every destination once, and on a dry run for every element. -/
structure Report.Accounts (config : Config) (elements : List Element) (report : Report) : Prop where
  once : ∀ label, (report.files.map WrittenFile.label ++ report.failures.map WriteFailure.label ++
    report.bareLabels).count label = if label ∈ config.destinations then 1 else 0
  filesOrdered : (report.files.map WrittenFile.label).Sublist config.destinations.eraseDups
  failuresOrdered : (report.failures.map WriteFailure.label).Sublist config.destinations.eraseDups
  bareOrdered : report.bareLabels.Sublist config.destinations.eraseDups
  bare_iff : ∀ label, label ∈ report.bareLabels ↔
    ∃ group ∈ (config.assignment elements).groups, group.label = label ∧ group.elements = []
  bare_iff_unowned : ∀ label, label ∈ report.bareLabels ↔
    label ∈ config.destinations ∧ Element.shared elements = [] ∧
      ∀ index, 1 ≤ index → index ≤ (Element.movable elements).length → config.owner index ≠ label
  repeated : ∃ dropped : List Text,
    report.warnings = dropped.map .duplicateDestination ++ report.bareLabels.map .emptyDestination ∧
      ∀ label, dropped.count label = config.destinations.count label - 1
  elementCounts : config.dryRun = true → (report.files.map WrittenFile.elementCount).sum =
    (Element.movable elements).length + (Element.shared elements).length * config.destinations.eraseDups.length

namespace Split

variable {config : Config} {outline : Outline} {outcomes : List Outcome}

theorem bareLabels_report : (report config outline (config.assignment outline.elements) outcomes).bareLabels =
    outcomes.filterMap Outcome.bare? := by
  have dropped (labels : List Text) : (labels.map Warning.duplicateDestination).filterMap Warning.bare? = [] :=
    List.filterMap_eq_nil_iff.mpr fun warning member => by
      obtain ⟨label, -, rfl⟩ := List.mem_map.mp member
      rfl
  have kept (labels : List Text) : (labels.map Warning.emptyDestination).filterMap Warning.bare? = labels := by
    rw [List.filterMap_map]
    exact List.filterMap_some
  change (List.map _ _ ++ outcomes.filterMap Outcome.warning?).filterMap Warning.bare? = _
  rw [List.filterMap_append, dropped, filterMap_warning?_eq_map, kept, List.nil_append]

theorem report_accounts (nonempty : config.destinations ≠ [])
    (settled : List.Forall₂ (Settled config) (config.assignment outline.elements).groups outcomes) :
    (report config outline (config.assignment outline.elements) outcomes).Accounts config outline.elements := by
  obtain ⟨default, rest, destinations⟩ := List.exists_cons_of_ne_nil nonempty
  have labels : outcomes.map Outcome.label = config.destinations.eraseDups :=
    (map_label_of_settled settled).trans (config.map_label_groups outline.elements)
  have bare := mem_bare?_iff settled
  constructor
  · intro label
    rw [bareLabels_report]
    refine (count_labels label outcomes).trans ?_
    rw [labels, (Lists.nodup_eraseDups config.destinations).count]
    simp only [List.mem_eraseDups]
  · exact labels ▸ sublist_map_label_file? outcomes
  · exact labels ▸ sublist_map_label (fun outcome failure picked => by cases outcome <;> cases picked; rfl) outcomes
  · rw [bareLabels_report, ← List.map_id (outcomes.filterMap Outcome.bare?)]
    exact labels ▸ sublist_map_label (fun outcome label picked => by cases outcome <;> cases picked; rfl) outcomes
  · rw [bareLabels_report]
    exact bare
  · intro label
    rw [bareLabels_report, bare]
    simp only [Config.assignment, Config.owner, destinations]
    exact Assignment.exists_empty_group_iff outline.elements default rest config.parsedSelections label
  · refine ⟨Assignment.repetitions [] config.destinations, ?_, fun label => ?_⟩
    · rw [bareLabels_report, ← filterMap_warning?_eq_map]
      rfl
    · rw [Assignment.count_repetitions, if_neg List.not_mem_nil]
  · intro dry
    have permuted := Assignment.flatMap_elements_perm outline.elements default rest config.parsedSelections
    refine (sum_elementCount_of_dry dry settled).trans ?_
    rw [Config.assignment, destinations, permuted.length_eq, List.length_append, List.length_flatMap, Nat.add_comm]
    simp only [List.map_const', List.sum_replicate_nat, Nat.mul_comm]

end Split

variable {σ : Type} [Host (StateM σ)]

theorem runWith_accounts (config : Config) (outline : Outline) (valid : config.invalid? = none)
    (occupied : outline.elements ≠ []) (state : σ) :
    ∃ report, ((Split.runWith config outline : StateM σ _).run state).1 = .ok report ∧
      report.Accounts config outline.elements := by
  have nonempty : config.destinations ≠ [] := by
    intro none
    simp [Config.invalid?, none] at valid
  have run := congrArg Prod.fst (Split.run_runWith config outline valid occupied state)
  exact ⟨_, run, Split.report_accounts nonempty (Split.forall₂_settleAll config _ _)⟩

def mixedSplit : Config :=
  { source := "s", destinations := ["a", "d", "a", "b"], selections := [("d", "2"), ("a", "1")] }

def mixedOutline : Outline := Outline.ofSource "s" "function f() \x7b\n\x7d\nfunction g() \x7b\n\x7d\n"

def mixedDisk : Disk := { entries := [(["d"], .directory)] }

theorem runWith_accounts_mixedSplit :
    mixedSplit.invalid? = none ∧ mixedOutline.elements ≠ [] ∧
    ∃ report, ((Split.runWith mixedSplit mixedOutline : OnDisk (Except SplitError Report)).run mixedDisk).1 =
      .ok report ∧ report.Accounts mixedSplit mixedOutline.elements :=
  have valid : mixedSplit.invalid? = none := by decide +kernel
  have occupied : mixedOutline.elements ≠ [] := by decide +kernel
  ⟨valid, occupied, runWith_accounts mixedSplit mixedOutline valid occupied mixedDisk⟩

end ScriptSplit
