import ScriptSplit.Proofs.Split.Effect

namespace ScriptSplit

def Disk.SameFile (disk : Disk) (path other : Text) : Prop :=
  ∃ location content, disk.find path = .ok (location, .file content) ∧
    disk.find other = .ok (location, .file content)

namespace Split

structure ReadsBack (config : Config) (later : Disk) (file : WrittenFile) (group : Group) (after : List Group)
    (text : Text) : Prop where
  label : group.label = file.label
  emitted : group.text? = some text
  path : file.path = config.filePath group.label
  bytes : file.bytes = text.size
  elementCount : file.elementCount = group.elements.length
  present : later.SameFile file.path file.path
  /-- A file that the path of no later group with a text leads to holds the text of its group. -/
  last : (∀ next ∈ after, next.text? ≠ none → ¬ later.SameFile file.path (config.filePath next.label)) → ∀ other,
    later.SameFile file.path other → later.read other = .ok text.bytes

variable {config : Config} {disk : Disk} {groups : List Group} {report : Report}

theorem readsBack_of_effect {later : Disk} (effect : Effect config groups report disk later)
    {before after : List Group} {group : Group} (order : groups = before ++ group :: after) {text : Text}
    (emitted : group.text? = some text) (finishes : Finishes config disk.faults later (before, group)) :
    ReadsBack config later (plannedFile config group text) group after text := by
  have member : (before, group) ∈ Lists.withPast groups := Lists.mem_withPast_iff.mpr ⟨after, order⟩
  obtain ⟨⟨location, placed⟩, none⟩ := finishes
  have opened : Leaves config disk.faults later (before, group) location text.bytes :=
    ⟨placed, text, emitted, by rw [none]; rfl⟩
  obtain ⟨content, found⟩ := effect.reached _ member _ _ opened
  refine ⟨rfl, emitted, rfl, rfl, rfl, ⟨location, content, found, found⟩, ?_⟩
  rintro lone other ⟨place, held, here, there⟩
  cases found.symm.trans here
  have stands : later.entry? location = some (.file text.bytes) := by
    refine effect.standing _ member _ _ opened fun turn among longer left leaves => ?_
    obtain ⟨other, found'⟩ := effect.reached turn among location left leaves
    have same := (Disk.entry?_of_find found).symm.trans (Disk.entry?_of_find found')
    cases same
    obtain ⟨-, text, emitted, -⟩ := leaves
    exact lone turn.2 (Lists.snd_mem_of_length_lt (order ▸ among) longer) (by simp [emitted])
      ⟨location, content, found, found'⟩
  cases found.symm.trans (Disk.find_of_target placed stands)
  exact Disk.read_of_find there

theorem exists_group_of_file (real : config.dryRun = false)
    (files : report.files = ((Lists.withPast groups).map (outcomeOf config disk)).filterMap Outcome.file?)
    {file : WrittenFile} (listed : file ∈ report.files) : ∃ before group after text,
      groups = before ++ group :: after ∧ group.text? = some text ∧ file = plannedFile config group text ∧
      Finishes config (prepared config disk).faults (prepared config disk) (before, group) := by
  rw [files] at listed
  obtain ⟨outcome, made, picked⟩ := List.mem_filterMap.mp listed
  obtain ⟨⟨before, group⟩, member, rfl⟩ := List.mem_map.mp made
  obtain ⟨after, order⟩ := Lists.mem_withPast_iff.mp member
  rcases outcomeOf_cases disk real (before, group) with
    ⟨-, empty⟩ | ⟨text, emitted, ⟨done, written⟩ | ⟨-, error, failed⟩⟩
  · rw [empty] at picked
    cases picked
  · rw [written] at picked
    cases picked
    exact ⟨before, group, after, text, order, emitted, rfl, done⟩
  · rw [failed] at picked
    cases picked

end Split

theorem run_readsBack {config : Config} {disk : Disk} {report : Report} (real : config.dryRun = false)
    (ran : ((Split.run config : OnDisk (Except SplitError Report)).run disk).1 = .ok report) :
    ∃ source : Text, disk.read config.sourcePath = .ok source.bytes ∧ ∀ file ∈ report.files,
      ∃ before group after text, (config.assignment (scan source)).groups = before ++ group :: after ∧
        Split.ReadsBack config ((Split.run config : OnDisk (Except SplitError Report)).run disk).2 file group after
          text := by
  by_cases ready : Split.Ready config disk
  · obtain ⟨valid, source, holds, occupied⟩ := ready
    obtain ⟨made, run, files, failures⟩ := Split.run_run_of_real real valid holds occupied
    rw [run] at ran ⊢
    cases ran
    refine ⟨source, holds, fun file listed => ?_⟩
    have effect := Split.effect_of_outcomes real (config.nodup_labels (scan source)) files failures
    obtain ⟨before, group, after, text, order, emitted, rfl, done⟩ := Split.exists_group_of_file real files listed
    obtain ⟨there, back⟩ := Split.keeps_stateAfter real (config.assignment (scan source)).groups
      (Split.prepared config disk)
    refine ⟨before, group, after, text, order, Split.readsBack_of_effect effect order emitted ?_⟩
    rwa [← (Split.furnished_prepared config disk).faults, Split.finishes_iff_of_keeps there back]
  · obtain ⟨error, failed⟩ := Split.run_run_of_not_ready ready
    rw [failed] at ran
    cases ran

theorem run_twinDisk : ∃ report, (Split.run twinSplit : OnDisk (Except SplitError Report)).run twinDisk =
      (.ok report, Split.stateAfter twinSplit twinGroups (Split.prepared twinSplit twinDisk)) ∧
    report.files = ((Lists.withPast twinGroups).map (Split.outcomeOf twinSplit twinDisk)).filterMap
      Split.Outcome.file? := by
  have holds : twinDisk.read twinSplit.sourcePath = .ok twinScript.bytes := rfl
  have real : twinSplit.dryRun = false := rfl
  obtain ⟨report, run, files, -⟩ := Split.run_run_of_real real (by decide +kernel) holds (by decide +kernel)
  rw [groups_twinSplit] at run files
  exact ⟨report, run, files⟩

theorem run_readsBack_twinSplit :
    ∃ report, ((Split.run twinSplit : OnDisk (Except SplitError Report)).run twinDisk).1 = .ok report ∧
      ∃ source : Text, twinDisk.read twinSplit.sourcePath = .ok source.bytes ∧ ∀ file ∈ report.files,
        ∃ before group after text, (twinSplit.assignment (scan source)).groups = before ++ group :: after ∧
          Split.ReadsBack twinSplit ((Split.run twinSplit : OnDisk (Except SplitError Report)).run twinDisk).2 file
            group after text := by
  obtain ⟨report, run, -⟩ := run_twinDisk
  have ran := congrArg Prod.fst run
  exact ⟨report, ran, run_readsBack rfl ran⟩

/-- The first destination is reported as written, and its file holds the text of the second one. -/
theorem run_twinSplit :
    ∃ report, ((Split.run twinSplit : OnDisk (Except SplitError Report)).run twinDisk).1 = .ok report ∧
      ∃ file ∈ report.files, ∃ group ∈ (twinSplit.assignment (scan twinScript)).groups, ∃ text,
        group.label = file.label ∧ file.written = true ∧ group.text? = some text ∧
        ((Split.run twinSplit : OnDisk (Except SplitError Report)).run twinDisk).2.read file.path ≠
          .ok text.bytes := by
  obtain ⟨report, run, files⟩ := run_twinDisk
  have listed : Split.plannedFile twinSplit twinGroups[0] "function g() \x7b\n\x7d\n" ∈ report.files := by
    rw [files]
    exact List.mem_cons_self
  have stands : (Split.stateAfter twinSplit twinGroups (Split.prepared twinSplit twinDisk)).read
      (twinSplit.filePath "a.js") = .ok (Text.bytes "function f() \x7b\n\x7d\n") := rfl
  rw [groups_twinSplit, run]
  refine ⟨report, rfl, _, listed, _, List.mem_cons_self, _, rfl, rfl, rfl, fun same => ?_⟩
  have texts : ("function f() \x7b\n\x7d\n" : Text) = "function g() \x7b\n\x7d\n" :=
    Text.bytes_injective (Except.ok.inj (stands.symm.trans same))
  revert texts
  decide

end ScriptSplit
