import ScriptSplit.Proofs.Split.Run

namespace ScriptSplit

namespace Split

inductive Foretells : WrittenFile → Outcome → Prop
  | written (file : WrittenFile) :
      Foretells { file with written := false } (.written { file with written := true })
  | failed (file : WrittenFile) (error : Text) :
      Foretells { file with written := false } (.failed ⟨file.label, file.path, error⟩)

inductive Agree : Outcome → Outcome → Prop
  | empty (label : Text) : Agree (.empty label) (.empty label)
  | file {file : WrittenFile} {outcome : Outcome} (foretold : Foretells file outcome) :
      Agree (.written file) outcome

theorem Settled.agree {config : Config} {group : Group} {dry real : Outcome}
    (tried : Settled { config with dryRun := true } group dry)
    (done : Settled { config with dryRun := false } group real) : Agree dry real := by
  cases tried with
  | empty bare =>
      cases done with
      | empty => exact .empty group.label
      | written content emitted => cases bare.symm.trans emitted
      | failed content error emitted => cases bare.symm.trans emitted
  | written content emitted =>
      cases done with
      | empty bare => cases bare.symm.trans emitted
      | written other same =>
          cases emitted.symm.trans same
          exact .file (.written (plannedFile { config with dryRun := false } group content))
      | failed other error same =>
          exact .file (.failed (plannedFile { config with dryRun := false } group content) error)
  | failed content error emitted real => cases real

theorem forall₂_agree {config : Config} {groups : List Group} {dry real : List Outcome}
    (tried : List.Forall₂ (Settled { config with dryRun := true }) groups dry)
    (done : List.Forall₂ (Settled { config with dryRun := false }) groups real) :
    List.Forall₂ Agree dry real := by
  induction tried generalizing real with
  | nil =>
      cases done
      exact .nil
  | cons first _ ih =>
      cases done with
      | cons second later => exact .cons (first.agree second) (ih later)

section Outcomes
variable {dry real : List Outcome}

theorem filterMap_warning?_of_agree (h : List.Forall₂ Agree dry real) :
    dry.filterMap Outcome.warning? = real.filterMap Outcome.warning? := by
  induction h with
  | nil => rfl
  | cons agree _ ih =>
      cases agree with
      | empty label => exact congrArg (.emptyDestination label :: ·) ih
      | file foretold => cases foretold <;> exact ih

theorem filterMap_failure?_of_agree (h : List.Forall₂ Agree dry real) :
    dry.filterMap Outcome.failure? = [] := by
  induction h with
  | nil => rfl
  | cons agree _ ih => cases agree <;> exact ih

theorem exists_forall₂_foretells (h : List.Forall₂ Agree dry real) :
    ∃ outcomes, outcomes.filterMap Outcome.file? = real.filterMap Outcome.file? ∧
      outcomes.filterMap Outcome.failure? = real.filterMap Outcome.failure? ∧
      List.Forall₂ Foretells (dry.filterMap Outcome.file?) outcomes := by
  induction h with
  | nil => exact ⟨[], rfl, rfl, .nil⟩
  | @cons first second dry real agree _ ih =>
      obtain ⟨outcomes, files, failures, beside⟩ := ih
      cases agree with
      | empty label => exact ⟨outcomes, files, failures, beside⟩
      | file foretold =>
          refine ⟨second :: outcomes, ?_, ?_, .cons foretold beside⟩
          · rw [List.filterMap_cons, List.filterMap_cons, files]
          · rw [List.filterMap_cons, List.filterMap_cons, failures]

theorem eq_map_of_foretells {files : List WrittenFile} {outcomes : List Outcome}
    (h : List.Forall₂ Foretells files outcomes) (clean : outcomes.filterMap Outcome.failure? = []) :
    files = (outcomes.filterMap Outcome.file?).map fun file => { file with written := false } := by
  induction h with
  | nil => rfl
  | cons foretold _ ih =>
      cases foretold with
      | written file => exact congrArg _ (ih clean)
      | failed file error => cases clean

end Outcomes
end Split

/-- What the report of a dry run says about the report of a real run. -/
structure Report.Foretells (destinations : List Text) (dry real : Report) : Prop where
  source : dry.source = real.source
  defaultDestination : dry.defaultDestination = real.defaultDestination
  stats : dry.stats = real.stats
  warnings : dry.warnings = real.warnings
  issues : dry.issues = real.issues
  failures : dry.failures = []
  merged : ∃ outcomes, outcomes.filterMap Split.Outcome.file? = real.files ∧
    outcomes.filterMap Split.Outcome.failure? = real.failures ∧
    List.Forall₂ Split.Foretells dry.files outcomes
  ordered : (dry.files.map WrittenFile.label).Sublist destinations.eraseDups
  clean : real.failures = [] →
    dry = { real with
      files := real.files.map fun file => { file with written := false }
      metadata := dry.metadata }

theorem Split.report_foretells {config : Config} {outline : Outline} {dry real : List Split.Outcome}
    (agree : List.Forall₂ Split.Agree dry real)
    (labels : dry.map Split.Outcome.label = config.destinations.eraseDups) :
    (report { config with dryRun := true } outline (config.assignment outline.elements) dry).Foretells
      config.destinations
      (report { config with dryRun := false } outline (config.assignment outline.elements) real) := by
  have warnings := congrArg ((config.assignment outline.elements).warnings ++ ·)
    (filterMap_warning?_of_agree agree)
  have failures := filterMap_failure?_of_agree agree
  obtain ⟨outcomes, files, failed, beside⟩ := exists_forall₂_foretells agree
  refine ⟨rfl, rfl, rfl, warnings, rfl, failures, ⟨outcomes, files, failed, beside⟩, ?_, ?_⟩
  · exact labels ▸ sublist_map_label_file? dry
  · intro clean
    have same := eq_map_of_foretells beside (failed.trans clean)
    rw [files] at same
    simp only [report, Report.mk.injEq, true_and, and_true]
    exact ⟨rfl, same, warnings, failures.trans clean.symm⟩

variable {σ : Type} [Host (StateM σ)]

theorem runWith_dryRun_foretells (config : Config) (outline : Outline) (state : σ) :
    let dry := ((Split.runWith { config with dryRun := true } outline : StateM σ _).run state).1
    let real := ((Split.runWith { config with dryRun := false } outline : StateM σ _).run state).1
    (∃ error, dry = .error error ∧ real = .error error) ∨
    ∃ foretold happened, dry = .ok foretold ∧ real = .ok happened ∧
      foretold.Foretells config.destinations happened := by
  intro dry real
  let trying : Config := { config with dryRun := true }
  let doing : Config := { config with dryRun := false }
  cases valid : config.invalid? with
  | some error =>
      have tried := Split.run_runWith_of_invalid trying outline valid state
      have done := Split.run_runWith_of_invalid doing outline valid state
      exact .inl ⟨.config error, congrArg Prod.fst tried, congrArg Prod.fst done⟩
  | none =>
      by_cases bare : outline.elements = []
      · have tried := Split.run_runWith_of_bare trying outline valid bare state
        have done := Split.run_runWith_of_bare doing outline valid bare state
        exact .inl ⟨.noElements outline.path, congrArg Prod.fst tried, congrArg Prod.fst done⟩
      · have tried := Split.run_runWith trying outline valid bare state
        have done := Split.run_runWith doing outline valid bare state
        let groups := (config.assignment outline.elements).groups
        have dryOutcomes := Split.forall₂_settleAll trying groups (Split.readied trying outline.elements state)
        have realOutcomes := Split.forall₂_settleAll doing groups (Split.readied doing outline.elements state)
        refine .inr ⟨_, _, congrArg Prod.fst tried, congrArg Prod.fst done, ?_⟩
        apply Split.report_foretells (Split.forall₂_agree dryOutcomes realOutcomes)
        rw [Split.map_label_of_settled dryOutcomes, Config.map_label_groups]

end ScriptSplit
