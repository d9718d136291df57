import ScriptSplit.Proofs.Disk.Directories
import ScriptSplit.Proofs.Outline
import ScriptSplit.Proofs.Split.Run

namespace ScriptSplit
namespace Disk

variable {disk : Disk} {path : Text} {content : ByteArray}

theorem faults_write : (disk.write path content).2.faults = disk.faults.tail := by
  unfold write
  cases disk.target path with
  | error error => rfl
  | ok location => cases Fault.left? disk.fault? content <;> rfl

theorem write_eq_ok_iff : (disk.write path content).1 = .ok ⟨⟩ ↔
    (∃ location, disk.target path = .ok location) ∧ disk.fault? = none := by
  unfold write
  cases disk.target path with
  | error error => simp
  | ok location => cases disk.fault? <;> simp

theorem write_cases (disk : Disk) (path : Text) (content : ByteArray) :
    (∃ location left, disk.target path = .ok location ∧
      Fault.left? disk.fault? content = some left ∧
      (disk.write path content).2.entries = (disk.put location (.file left)).entries) ∨
    (∀ location, disk.target path = .ok location → Fault.left? disk.fault? content = none) ∧
      (disk.write path content).2.entries = disk.entries := by
  unfold write
  cases disk.target path with
  | error error => exact .inr ⟨nofun, rfl⟩
  | ok location =>
      cases opened : Fault.left? disk.fault? content with
      | none => exact .inr ⟨fun _ _ => rfl, rfl⟩
      | some left => exact .inl ⟨location, left, rfl, rfl, rfl⟩

theorem entry?_congr {later : Disk} (same : later.entries = disk.entries) (location : Location) :
    Disk.entry? later location = disk.entry? location := by
  unfold entry?
  rw [same]

theorem entry?_write_of_left {location : Location} {left : ByteArray} (placed : disk.target path = .ok location)
    (opened : Fault.left? disk.fault? content = some left) :
    Disk.entry? (disk.write path content).2 location = some (.file left) := by
  rcases write_cases disk path content with
    ⟨place, bytes, there, filled, entries⟩ | ⟨closed, -⟩
  · cases there.symm.trans placed
    cases filled.symm.trans opened
    obtain ⟨-, -, -, -, -, -, inside, -⟩ := target_eq_ok_iff.mp placed
    rw [entry?_congr entries, entry?_put inside, if_pos rfl]
  · cases (closed location placed).symm.trans opened

theorem entry?_write_of_not_left {location : Location} (apart : disk.target path = .ok location →
    Fault.left? disk.fault? content = none) :
    Disk.entry? (disk.write path content).2 location = disk.entry? location := by
  rcases write_cases disk path content with
    ⟨place, bytes, there, filled, entries⟩ | ⟨-, entries⟩
  · obtain ⟨-, -, -, -, -, -, inside, -⟩ := target_eq_ok_iff.mp there
    have differs : location ≠ place := by
      rintro rfl
      cases (apart there).symm.trans filled
    rw [entry?_congr entries, entry?_put inside, if_neg differs]
  · exact entry?_congr entries location

theorem keeps_write : Keeps disk (disk.write path content).2 ∧ Keeps (disk.write path content).2 disk := by
  have fixed : (disk.write path content).2.workingDirectory = disk.workingDirectory ∧
      (disk.write path content).2.denied? = disk.denied? := by
    unfold write
    cases disk.target path with
    | error error => exact ⟨rfl, rfl⟩
    | ok location => cases Fault.left? disk.fault? content <;> exact ⟨rfl, rfl⟩
  have directory (location : Location) : Disk.entry? (disk.write path content).2 location = some .directory ↔
      disk.entry? location = some .directory := by
    by_cases opened : ∃ left, disk.target path = .ok location ∧ Fault.left? disk.fault? content = some left
    · obtain ⟨left, placed, filled⟩ := opened
      obtain ⟨-, -, -, -, -, free, -⟩ := target_eq_ok_iff.mp placed
      rw [entry?_write_of_left placed filled]
      exact ⟨nofun, fun holds => absurd holds free⟩
    · rw [entry?_write_of_not_left fun placed => Option.eq_none_iff_forall_ne_some.mpr fun left filled =>
        opened ⟨left, placed, filled⟩]
  exact ⟨⟨fixed.1, fixed.2, fun location => (directory location).mpr⟩,
    ⟨fixed.1.symm, fixed.2.symm, fun location => (directory location).mp⟩⟩

end Disk

namespace Split

variable {config : Config} {disk later : Disk} {group : Group} {groups : List Group}

/-- The fault that the file of a group meets, of those that the groups before it have left. -/
def faultAfter (faults : List (Option Fault)) (before : List Group) : Option Fault :=
  faults[(before.filterMap Group.text?).length]?.join

/-- A group whose turn it is after others gets to open the file at a location, and leaves some bytes there. -/
structure Leaves (config : Config) (faults : List (Option Fault)) (disk : Disk) (turn : List Group × Group)
    (location : Location) (left : ByteArray) : Prop where
  target : disk.target (config.filePath turn.2.label) = .ok location
  left : ∃ text, turn.2.text? = some text ∧ Fault.left? (faultAfter faults turn.1) text.bytes = some left

/-- The file of a group whose turn it is after others can be opened, and nothing stops the writing. -/
def Finishes (config : Config) (faults : List (Option Fault)) (disk : Disk) (turn : List Group × Group) : Prop :=
  (∃ location, disk.target (config.filePath turn.2.label) = .ok location) ∧ faultAfter faults turn.1 = none

theorem Leaves.of_keeps {faults : List (Option Fault)} {turn : List Group × Group} {location : Location}
    {left : ByteArray} (there : Disk.Keeps disk later) (back : Disk.Keeps later disk)
    (h : Leaves config faults disk turn location left) : Leaves config faults later turn location left :=
  ⟨(Disk.target_eq_ok_iff_of_keeps there back).mpr h.target, h.left⟩

theorem finishes_iff_of_keeps {faults : List (Option Fault)} {turn : List Group × Group}
    (there : Disk.Keeps disk later) (back : Disk.Keeps later disk) :
    Finishes config faults later turn ↔ Finishes config faults disk turn := by
  simp only [Finishes, Disk.target_eq_ok_iff_of_keeps there back]

theorem run_write (disk : Disk) (path : Text) (content : ByteArray) :
    (Host.write path content : OnDisk (Except FileError PUnit)).run disk = disk.write path content := rfl

section Real
variable (real : config.dryRun = false)
include real

theorem run_settle_of_text {text : Text} (emitted : group.text? = some text) (disk : Disk) :
    let written := disk.write (config.filePath group.label) text.bytes
    (settle config group : OnDisk Outcome).run disk =
      (match written.1 with
        | .ok _ => .written (plannedFile config group text)
        | .error error => .failed ⟨group.label, config.filePath group.label, error.message⟩, written.2) := by
  have path : (plannedFile config group text).path = config.filePath group.label := rfl
  simp only [settle, emitted, real, Bool.false_eq_true, if_false, OnDisk.run_bind, run_write, path]
  generalize disk.write (config.filePath group.label) text.bytes = written
  obtain ⟨result, later⟩ := written
  cases result <;> rfl

end Real

theorem run_settle_of_bare (bare : group.text? = none) (disk : Disk) :
    (settle config group : OnDisk Outcome).run disk = (.empty group.label, disk) := by
  simp only [settle, bare]
  rfl

section Real
variable (real : config.dryRun = false)
include real

theorem keeps_stateAfter (groups : List Group) (disk : Disk) :
    Disk.Keeps disk (stateAfter config groups disk) ∧ Disk.Keeps (stateAfter config groups disk) disk := by
  induction groups using List.reverseRecOn with
  | nil => exact ⟨.refl disk, .refl disk⟩
  | append_singleton before group ih =>
      rw [stateAfter_concat]
      cases emitted : group.text? with
      | none =>
          rw [run_settle_of_bare emitted]
          exact ih
      | some text =>
          rw [run_settle_of_text real emitted]
          exact ⟨ih.1.trans Disk.keeps_write.1, Disk.keeps_write.2.trans ih.2⟩

theorem faults_stateAfter (groups : List Group) (disk : Disk) : Disk.faults (stateAfter config groups disk) =
    disk.faults.drop (groups.filterMap Group.text?).length := by
  induction groups using List.reverseRecOn with
  | nil => rfl
  | append_singleton before group ih =>
      rw [stateAfter_concat, List.filterMap_append, List.length_append]
      cases emitted : group.text? with
      | none =>
          rw [run_settle_of_bare emitted]
          simpa [emitted] using ih
      | some text =>
          rw [run_settle_of_text real emitted]
          simp [Disk.faults_write, ih, emitted]

theorem fault?_stateAfter (groups : List Group) (disk : Disk) :
    Disk.fault? (stateAfter config groups disk) = faultAfter disk.faults groups := by
  rw [Disk.fault?, faults_stateAfter real, List.head?_drop, faultAfter]

theorem entry?_stateAfter_of_leaves {before : List Group} {location : Location} {left : ByteArray}
    (h : Leaves config disk.faults disk (before, group) location left) :
    Disk.entry? (stateAfter config (before ++ [group]) disk) location = some (.file left) := by
  obtain ⟨there, back⟩ := keeps_stateAfter real before disk
  obtain ⟨placed, text, emitted, filled⟩ := h.of_keeps there back
  rw [stateAfter_concat, run_settle_of_text real emitted]
  exact Disk.entry?_write_of_left placed (by rw [fault?_stateAfter real, filled])

theorem entry?_stateAfter_of_not_leaves {before : List Group} {location : Location}
    (apart : ∀ left, ¬ Leaves config disk.faults disk (before, group) location left) :
    Disk.entry? (stateAfter config (before ++ [group]) disk) location =
      Disk.entry? (stateAfter config before disk) location := by
  obtain ⟨there, back⟩ := keeps_stateAfter real before disk
  rw [stateAfter_concat]
  cases emitted : group.text? with
  | none => rw [run_settle_of_bare emitted]
  | some text =>
      rw [run_settle_of_text real emitted]
      refine Disk.entry?_write_of_not_left fun placed => Option.eq_none_iff_forall_ne_some.mpr fun left filled => ?_
      rw [fault?_stateAfter real] at filled
      exact apart left (Leaves.of_keeps back there ⟨placed, text, emitted, filled⟩)

theorem entry?_stateAfter_append (before after : List Group) {location : Location}
    (apart : ∀ turn ∈ Lists.withPast after, ∀ left,
      ¬ Leaves config disk.faults disk (before ++ turn.1, turn.2) location left) :
    Disk.entry? (stateAfter config (before ++ after) disk) location =
      Disk.entry? (stateAfter config before disk) location := by
  induction after using List.reverseRecOn with
  | nil => rw [List.append_nil]
  | append_singleton between group ih =>
      rw [Lists.withPast_concat] at apart
      rw [← List.append_assoc, entry?_stateAfter_of_not_leaves real (apart (between, group) (by simp))]
      exact ih fun turn member => apart turn (List.mem_append_left _ member)

theorem settle_cases {before : List Group} {text : Text} (emitted : group.text? = some text) :
    let outcome := ((settle config group : OnDisk Outcome).run (stateAfter config before disk)).1
    Finishes config disk.faults disk (before, group) ∧ outcome = .written (plannedFile config group text) ∨
    ¬ Finishes config disk.faults disk (before, group) ∧
      ∃ error, outcome = .failed ⟨group.label, config.filePath group.label, error⟩ := by
  obtain ⟨there, back⟩ := keeps_stateAfter real before disk
  have finishes : (Disk.write (stateAfter config before disk) (config.filePath group.label) text.bytes).1 =
      .ok ⟨⟩ ↔ _ := Disk.write_eq_ok_iff
  simp only [fault?_stateAfter real, Disk.target_eq_ok_iff_of_keeps there back] at finishes
  rw [run_settle_of_text real emitted]
  cases written : (Disk.write (stateAfter config before disk) (config.filePath group.label) text.bytes).1 with
  | ok done => exact .inl ⟨finishes.mp written, rfl⟩
  | error error =>
      refine .inr ⟨fun done => ?_, error.message, rfl⟩
      cases written.symm.trans (finishes.mpr done)

theorem entry?_stateAfter_of_last {last : List Group × Group} (member : last ∈ Lists.withPast groups)
    {location : Location} {left : ByteArray} (h : Leaves config disk.faults disk last location left)
    (apart : ∀ turn ∈ Lists.withPast groups, last.1.length < turn.1.length → ∀ other,
      ¬ Leaves config disk.faults disk turn location other) :
    Disk.entry? (stateAfter config groups disk) location = some (.file left) := by
  obtain ⟨before, group⟩ := last
  obtain ⟨after, rfl⟩ := Lists.mem_withPast_iff.mp member
  have whole : before ++ group :: after = before ++ [group] ++ after := by simp
  rw [whole, entry?_stateAfter_append real _ after, entry?_stateAfter_of_leaves real h]
  intro turn among
  obtain ⟨future, rfl⟩ := Lists.mem_withPast_iff.mp among
  exact apart _ (Lists.mem_withPast_iff.mpr ⟨future, by simp⟩) (by simp)

theorem entry?_stateAfter_of_apart {location : Location}
    (apart : ∀ turn ∈ Lists.withPast groups, ∀ left, ¬ Leaves config disk.faults disk turn location left) :
    Disk.entry? (stateAfter config groups disk) location = disk.entry? location := by
  have unchanged := entry?_stateAfter_append real [] groups apart
  exact unchanged

theorem find_stateAfter_of_leaves {turn : List Group × Group} (member : turn ∈ Lists.withPast groups)
    {location : Location} {left : ByteArray} (h : Leaves config disk.faults disk turn location left) :
    ∃ content, Disk.find (stateAfter config groups disk) (config.filePath turn.2.label) =
      .ok (location, .file content) := by
  obtain ⟨there, back⟩ := keeps_stateAfter real groups disk
  obtain ⟨last, among, ⟨content, leaves⟩, none⟩ := Lists.exists_last_withPast
    (p := fun turn => ∃ left, Leaves config disk.faults disk turn location left) ⟨turn, member, left, h⟩
  refine ⟨content, Disk.find_of_target (h.of_keeps there back).target ?_⟩
  exact entry?_stateAfter_of_last real among leaves fun other later longer left opened =>
    none other later longer ⟨left, opened⟩

end Real

end Split
end ScriptSplit
