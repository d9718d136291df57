import ScriptSplit.Proofs.Split.Writes

namespace ScriptSplit

theorem Text.eq_bytes_of_ofBytes? {bytes : ByteArray} {text : Text} (decoded : Text.ofBytes? bytes = some text) :
    bytes = text.bytes := by
  unfold Text.ofBytes? String.fromUTF8? at decoded
  split at decoded
  · next valid =>
      cases decoded
      exact congrArg String.toUTF8 (String.ofList_toList (s := String.fromUTF8 bytes valid)).symm
  · cases decoded

theorem Text.bytes_injective : Function.Injective Text.bytes := by
  intro text other same
  have decoded := congrArg Text.ofBytes? same
  rw [Text.ofBytes?_bytes, Text.ofBytes?_bytes] at decoded
  exact Option.some.inj decoded

namespace OnDisk

variable {disk : Disk} {path : Text}

theorem run_nearbyScripts (path : Text) (disk : Disk) :
    ∃ nearby, (nearbyScripts path : OnDisk (List Text)).run disk = (nearby, disk) := ⟨_, rfl⟩

theorem run_readText_of_unreadable (unreadable : ∀ source : Text, disk.read path ≠ .ok source.bytes) :
    ∃ error, (Host.readText path : OnDisk (Except FileError Text)).run disk = (.error error, disk) := by
  have asked : (Host.read path : OnDisk (Except FileError ByteArray)).run disk = (disk.read path, disk) := rfl
  rw [Host.readText, run_bind, asked]
  cases held : disk.read path with
  | error error => exact ⟨error, rfl⟩
  | ok bytes =>
      cases decoded : Text.ofBytes? bytes with
      | none =>
          refine ⟨.notUtf8, ?_⟩
          simp only [decoded]
          rfl
      | some source =>
          have same := Text.eq_bytes_of_ofBytes? decoded
          exact absurd (held.trans (congrArg _ same)) (unreadable source)

theorem run_scanFile_of_unreadable (unreadable : ∀ source : Text, disk.read path ≠ .ok source.bytes) :
    ∃ error, (scanFile path : OnDisk (Except SplitError Outline)).run disk = (.error error, disk) := by
  obtain ⟨failure, failed⟩ := run_readText_of_unreadable unreadable
  obtain ⟨nearby, looked⟩ := run_nearbyScripts path disk
  rw [scanFile, run_bind, failed]
  cases failure with
  | notFound =>
      refine ⟨.sourceNotFound path nearby, ?_⟩
      simp only [run_bind, looked]
      rfl
  | _ => exact ⟨_, rfl⟩

end OnDisk

namespace Split

variable {config : Config} {disk : Disk} {source : Text}

theorem run_run_of_invalid {error : ConfigError} (invalid : config.invalid? = some error) :
    (run config : OnDisk (Except SplitError Report)).run disk = (.error (.config error), disk) := by
  simp only [run, invalid]
  rfl

theorem run_run_of_unreadable (valid : config.invalid? = none)
    (unreadable : ∀ source : Text, disk.read config.sourcePath ≠ .ok source.bytes) :
    ∃ error, (run config : OnDisk (Except SplitError Report)).run disk = (.error error, disk) := by
  obtain ⟨error, failed⟩ := OnDisk.run_scanFile_of_unreadable unreadable
  refine ⟨error, ?_⟩
  simp only [run, valid, OnDisk.run_bind, failed]
  rfl

theorem run_run_of_readable (valid : config.invalid? = none)
    (holds : disk.read config.sourcePath = .ok source.bytes) :
    (run config : OnDisk (Except SplitError Report)).run disk =
      (runWith config (Outline.ofSource config.sourcePath source) : OnDisk _).run disk := by
  simp only [run, valid, OnDisk.run_bind, OnDisk.run_scanFile holds]

theorem run_run_of_bare (valid : config.invalid? = none) (holds : disk.read config.sourcePath = .ok source.bytes)
    (bare : scan source = []) : (run config : OnDisk (Except SplitError Report)).run disk =
      (.error (.noElements config.sourcePath), disk) := by
  rw [run_run_of_readable valid holds]
  exact run_runWith_of_bare config (Outline.ofSource config.sourcePath source) valid bare disk

def Ready (config : Config) (disk : Disk) : Prop :=
  config.invalid? = none ∧ ∃ source : Text, disk.read config.sourcePath = .ok source.bytes ∧ scan source ≠ []

theorem run_run_of_not_ready (unready : ¬ Ready config disk) :
    ∃ error, (run config : OnDisk (Except SplitError Report)).run disk = (.error error, disk) := by
  cases valid : config.invalid? with
  | some error => exact ⟨_, run_run_of_invalid valid⟩
  | none =>
      by_cases readable : ∃ source : Text, disk.read config.sourcePath = .ok source.bytes
      · obtain ⟨source, holds⟩ := readable
        by_cases bare : scan source = []
        · exact ⟨_, run_run_of_bare valid holds bare⟩
        · exact absurd ⟨valid, source, holds, bare⟩ unready
      · exact run_run_of_unreadable valid fun source holds => readable ⟨source, holds⟩

theorem run_run_of_occupied (valid : config.invalid? = none)
    (holds : disk.read config.sourcePath = .ok source.bytes) (occupied : scan source ≠ []) :
    (run config : OnDisk (Except SplitError Report)).run disk =
      let assignment := config.assignment (scan source)
      let settled := (settleAll config assignment.groups : OnDisk (List Outcome)).run
        (readied config (scan source) disk)
      (.ok (report config (Outline.ofSource config.sourcePath source) assignment settled.1), settled.2) := by
  rw [run_run_of_readable valid holds]
  exact run_runWith config (Outline.ofSource config.sourcePath source) valid occupied disk

section Dry
variable (dry : config.dryRun = true)
include dry

end Dry

def prepared (config : Config) (disk : Disk) : Disk :=
  ((Host.makeDirectories config.outputPath : OnDisk (Except FileError PUnit)).run disk).2

theorem readied_of_real (real : config.dryRun = false) (elements : List Element) :
    readied config elements disk = prepared config disk := by
  have prepare : ((prepare config : OnDisk PUnit).run disk).2 = prepared config disk := by
    simp only [Split.prepare, real, Bool.not_false, if_true, OnDisk.run_bind, prepared]
    cases ((Host.makeDirectories config.outputPath : OnDisk (Except FileError PUnit)).run disk).1 <;> rfl
  simp only [readied, OnDisk.run_notes, prepare]

def outcomeOf (config : Config) (disk : Disk) (turn : List Group × Group) : Outcome :=
  ((settle config turn.2 : OnDisk Outcome).run (stateAfter config turn.1 (prepared config disk))).1

theorem run_run_of_real (real : config.dryRun = false) (valid : config.invalid? = none)
    (holds : disk.read config.sourcePath = .ok source.bytes) (occupied : scan source ≠ []) :
    let groups := (config.assignment (scan source)).groups
    let outcomes := (Lists.withPast groups).map (outcomeOf config disk)
    ∃ report, (run config : OnDisk (Except SplitError Report)).run disk =
        (.ok report, stateAfter config groups (prepared config disk)) ∧
      report.files = outcomes.filterMap Outcome.file? ∧
      report.failures = outcomes.filterMap Outcome.failure? := by
  have run := run_run_of_occupied valid holds occupied
  simp only [readied_of_real real, run_settleAll] at run
  exact ⟨_, run, rfl, rfl⟩

end Split
end ScriptSplit
