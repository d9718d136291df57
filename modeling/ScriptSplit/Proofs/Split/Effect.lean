import ScriptSplit.Proofs.Disk.Making
import ScriptSplit.Proofs.Split.DiskRun

namespace ScriptSplit
namespace Split

structure Effect (config : Config) (groups : List Group) (report : Report) (disk later : Disk) : Prop where
  /-- Where nothing stands in the way, the output directory is made with all that are missing above it. -/
  outputDirectory : disk.Clear config.outputPath → later.isDirectory config.outputPath = true
  /-- Whether a file is written depends on the directories and on its own fault, and on no other group. -/
  finished : ∀ turn ∈ Lists.withPast groups, (∃ file ∈ report.files, file.label = turn.2.label) ↔
    turn.2.text? ≠ none ∧ Finishes config disk.faults later turn
  failed : ∀ turn ∈ Lists.withPast groups, (∃ failure ∈ report.failures, failure.label = turn.2.label) ↔
    turn.2.text? ≠ none ∧ ¬ Finishes config disk.faults later turn
  reached : ∀ turn ∈ Lists.withPast groups, ∀ location left, Leaves config disk.faults later turn location left →
    ∃ content, later.find (config.filePath turn.2.label) = .ok (location, .file content)
  /-- What the last group that opens a file leaves there is what the file holds. -/
  standing : ∀ last ∈ Lists.withPast groups, ∀ location left, Leaves config disk.faults later last location left →
    (∀ turn ∈ Lists.withPast groups, last.1.length < turn.1.length → ∀ other,
      ¬ Leaves config disk.faults later turn location other) →
    later.entry? location = some (.file left)
  /-- All other locations are the same but for directories on the way to the output directory. -/
  elsewhere : ∀ location,
    (∀ turn ∈ Lists.withPast groups, ∀ left, ¬ Leaves config disk.faults later turn location left) →
    later.entry? location = disk.entry? location ∨
    disk.entry? location = none ∧ later.entry? location = some .directory ∧
      ∃ above, Path.Above config.outputPath above ∧ later.find above = .ok (location, .directory)
  workingDirectory : later.workingDirectory = disk.workingDirectory
  denied? : later.denied? = disk.denied?
  faults : later.faults = disk.faults.drop (groups.filterMap Group.text?).length

variable {config : Config} {disk : Disk} {groups : List Group} {report : Report}

theorem exists_picked_iff {α : Type} {pick : Outcome → Option α} {name : α → Text}
    (named : ∀ outcome item, pick outcome = some item → name item = outcome.label)
    (distinct : (groups.map Group.label).Nodup) {turn : List Group × Group} (member : turn ∈ Lists.withPast groups) :
    (∃ item ∈ ((Lists.withPast groups).map (outcomeOf config disk)).filterMap pick, name item = turn.2.label) ↔
      ∃ item, pick (outcomeOf config disk turn) = some item := by
  have label (turn : List Group × Group) : (outcomeOf config disk turn).label = turn.2.label :=
    (settled_settle config turn.2 _).label_eq
  have labels : ((Lists.withPast groups).map fun turn => turn.2.label).Nodup := by
    have snd := congrArg (List.map Group.label) (Lists.map_snd_withPast groups)
    rw [List.map_map] at snd
    exact snd.symm ▸ distinct
  constructor
  · rintro ⟨item, listed, same⟩
    obtain ⟨outcome, made, picked⟩ := List.mem_filterMap.mp listed
    obtain ⟨other, among, rfl⟩ := List.mem_map.mp made
    rw [named _ item picked, label] at same
    cases List.inj_on_of_nodup_map labels among member same
    exact ⟨item, picked⟩
  · rintro ⟨item, picked⟩
    exact ⟨item, List.mem_filterMap.mpr ⟨_, List.mem_map_of_mem member, picked⟩,
      (named _ item picked).trans (label turn)⟩

theorem outcomeOf_cases (disk : Disk) (real : config.dryRun = false) (turn : List Group × Group) :
    turn.2.text? = none ∧ outcomeOf config disk turn = .empty turn.2.label ∨ ∃ text, turn.2.text? = some text ∧
      (Finishes config (prepared config disk).faults (prepared config disk) turn ∧
          outcomeOf config disk turn = .written (plannedFile config turn.2 text) ∨
        ¬ Finishes config (prepared config disk).faults (prepared config disk) turn ∧
          ∃ error, outcomeOf config disk turn = .failed ⟨turn.2.label, config.filePath turn.2.label, error⟩) := by
  cases emitted : turn.2.text? with
  | none => exact .inl ⟨rfl, congrArg Prod.fst (run_settle_of_bare emitted _)⟩
  | some text => exact .inr ⟨text, rfl, settle_cases real emitted⟩

theorem furnished_prepared (config : Config) (disk : Disk) :
    Disk.Furnished config.outputPath disk (prepared config disk) :=
  OnDisk.furnished_makeDirectoriesWithin _ config.outputPath disk

theorem effect_of_outcomes (real : config.dryRun = false) (distinct : (groups.map Group.label).Nodup)
    (files : report.files = ((Lists.withPast groups).map (outcomeOf config disk)).filterMap Outcome.file?)
    (failures : report.failures = ((Lists.withPast groups).map (outcomeOf config disk)).filterMap Outcome.failure?) :
    Effect config groups report disk (stateAfter config groups (prepared config disk)) := by
  have furnished := furnished_prepared config disk
  obtain ⟨there, back⟩ := keeps_stateAfter real groups (prepared config disk)
  -- The files are opened on the disk that the directories are made on, and found on the last one.
  have leaves {turn : List Group × Group} {location : Location} {left : ByteArray} :
      Leaves config disk.faults (stateAfter config groups (prepared config disk)) turn location left ↔
        Leaves config (prepared config disk).faults (prepared config disk) turn location left := by
    rw [furnished.faults]
    exact ⟨Leaves.of_keeps back there, Leaves.of_keeps there back⟩
  constructor
  case outputDirectory =>
    intro clear
    exact there.isDirectory (OnDisk.isDirectory_makeDirectories clear)
  case finished =>
    intro turn member
    rw [finishes_iff_of_keeps there back, files, ← furnished.faults,
      exists_picked_iff (fun outcome file picked => by cases outcome <;> cases picked; rfl) distinct member]
    rcases outcomeOf_cases disk real turn with
      ⟨bare, empty⟩ | ⟨text, emitted, ⟨done, written⟩ | ⟨cut, error, failed⟩⟩
    · simp [empty, bare, Outcome.file?]
    · simp [written, emitted, done, Outcome.file?]
    · simp [failed, cut, Outcome.file?]
  case failed =>
    intro turn member
    rw [finishes_iff_of_keeps there back, failures, ← furnished.faults,
      exists_picked_iff (fun outcome failure picked => by cases outcome <;> cases picked; rfl) distinct member]
    rcases outcomeOf_cases disk real turn with
      ⟨bare, empty⟩ | ⟨text, emitted, ⟨done, written⟩ | ⟨cut, error, failed⟩⟩
    · simp [empty, bare, Outcome.failure?]
    · simp [written, done, Outcome.failure?]
    · simp [failed, emitted, cut, Outcome.failure?]
  case reached =>
    intro turn member location left opened
    exact find_stateAfter_of_leaves real member (leaves.mp opened)
  case standing =>
    intro last member location left opened apart
    exact entry?_stateAfter_of_last real member (leaves.mp opened) fun turn later longer other found =>
      apart turn later longer other (leaves.mpr found)
  case elsewhere =>
    intro location apart
    rw [entry?_stateAfter_of_apart real fun turn member left opened => apart turn member left (leaves.mpr opened)]
    rcases furnished.entry location with same | ⟨absent, made, above, way, found⟩
    · exact .inl same
    · exact .inr ⟨absent, made, above, way, there.find_directory found⟩
  case workingDirectory => exact there.workingDirectory.trans furnished.keeps.workingDirectory
  case denied? => exact there.denied?.trans furnished.keeps.denied?
  case faults => rw [faults_stateAfter real, furnished.faults]

end Split
def twinScript : Text := "function f() \x7b\n\x7d\nfunction g() \x7b\n\x7d\n"

def twinDisk : Disk := { entries := [(["game.js"], .file twinScript.bytes)] }

def twinSplit : Config :=
  { source := "game.js", destinations := ["a.js", "./a.js"], selections := [("./a.js", "1")] }

def twinGroups : List Group :=
  [{ label := "a.js", isDefault := true
     elements := [⟨.functionDecl, "g", ["function g() \x7b", "\x7d"], 3⟩] },
   { label := "./a.js", isDefault := false
     elements := [⟨.functionDecl, "f", ["function f() \x7b", "\x7d"], 1⟩] }]

theorem groups_twinSplit : (twinSplit.assignment (scan twinScript)).groups = twinGroups := by decide +kernel

end ScriptSplit
