import ScriptSplit.Command.Run
import ScriptSplit.Proofs.Disk.Parents
import ScriptSplit.Proofs.Split.DiskRun

namespace ScriptSplit

theorem Plan.run_load_eq_ok_iff {path : Text} {disk : Disk} {plan : Plan} :
    (Plan.load path : OnDisk (Except ConfigError Plan)).run disk = (.ok plan, disk) ↔
      ∃ text : Text, disk.read path = .ok text.bytes ∧
        Plan.parse text ((Path.extension? path).getD []).toSmall = .ok plan := by
  rw [Plan.load, OnDisk.run_bind]
  by_cases readable : ∃ text : Text, disk.read path = .ok text.bytes
  · obtain ⟨text, holds⟩ := readable
    rw [OnDisk.run_readText holds]
    refine ⟨fun loaded => ⟨text, holds, congrArg Prod.fst loaded⟩, ?_⟩
    rintro ⟨other, same, parsed⟩
    cases Text.bytes_injective (Except.ok.inj (same.symm.trans holds))
    exact congrArg (·, disk) parsed
  · obtain ⟨error, failed⟩ := OnDisk.run_readText_of_unreadable fun text holds => readable ⟨text, holds⟩
    rw [failed]
    refine ⟨nofun, ?_⟩
    rintro ⟨text, holds, -⟩
    exact absurd ⟨text, holds⟩ readable

namespace Config

variable (config : Config) (disk : Disk)

def sourcePlace : Location := Path.place disk.workingDirectory config.sourcePath

def outputPlace : Location := Path.place disk.workingDirectory config.outputPath

structure Lies (source output : Location) : Prop where
  source : config.sourcePlace disk = source
  output : config.outputPlace disk = output

end Config

namespace Command

open ScriptSplit.Path

variable {disk : Disk} {baseDir planFile file dir : Text} {request : SplitRequest} {plan : Plan} {config : Config}

/-- The configuration that a request runs on a disk. -/
def Configures (baseDir : Text) (request : SplitRequest) (disk : Disk) (config : Config) : Prop :=
  ∃ read, (configFor baseDir request : OnDisk (Except Failure Config)).run disk = (.ok read, disk) ∧
    override request read = config

theorem run_runSplit_of_configures (h : Configures baseDir request disk config) (colour : Bool) :
    ((runSplit baseDir colour request : OnDisk (Except Failure Text)).run disk).2 =
      ((Split.run config : OnDisk (Except SplitError Report)).run disk).2 := by
  obtain ⟨read, configured, rfl⟩ := h
  rw [runSplit, OnDisk.run_bind, configured]
  simp only [OnDisk.run_bind]
  cases ((Split.run (override request read) : OnDisk (Except SplitError Report)).run disk).1 with
  | error error => rfl
  | ok report => by_cases summary : request.format = .summary <;> simp only [summary] <;> rfl

theorem outputPlace_override (directed : request.outputDir = some dir) (config : Config) (disk : Disk) :
    (override request config).outputPlace disk = place (place disk.workingDirectory config.baseDir) dir := by
  rw [Config.outputPlace, Config.outputPath, override, directed]
  exact place_join _ _ _

theorem configOfOptions_eq_ok {config : Config} (read : configOfOptions baseDir request = .ok config) :
    config.baseDir = baseDir ∧ request.source = some config.source := by
  unfold configOfOptions at read
  split at read
  · cases read
  · next source given =>
      split at read
      · cases read
      · cases chosen : request.assignments.mapM assignment? with
        | error failure =>
            rw [chosen] at read
            cases read
        | ok selections =>
            rw [chosen] at read
            cases read
            exact ⟨rfl, given⟩

theorem places_of_options (free : request.plan = none) (given : request.source = some file)
    (directed : request.outputDir = some dir) (h : Configures baseDir request disk config) :
    config.Lies disk (place disk.workingDirectory (join baseDir file))
      (place disk.workingDirectory (join baseDir dir)) := by
  obtain ⟨read, configured, rfl⟩ := h
  have options : configOfOptions baseDir request = .ok read := by
    rw [configFor, free] at configured
    exact congrArg Prod.fst configured
  obtain ⟨rfl, named⟩ := configOfOptions_eq_ok options
  cases given.symm.trans named
  exact ⟨rfl, by rw [outputPlace_override directed, place_join]⟩

theorem run_configFor_of_load (asked : request.plan = some planFile)
    (loaded : (Plan.load (join baseDir planFile) : OnDisk (Except ConfigError Plan)).run disk = (.ok plan, disk)) :
    (configFor baseDir request : OnDisk (Except Failure Config)).run disk =
      (.ok (configOfPlan baseDir (ofLocation disk.workingDirectory) (join baseDir planFile) request.source plan),
        disk) := by
  simp only [configFor, asked, OnDisk.run_bind, loaded]
  rfl

theorem place_baseDir_configOfPlan {location : Location} {content : ByteArray}
    (found : disk.find (join baseDir planFile) = .ok (location, .file content)) (workingDirectory : Text)
    (source : Option Text) (plan : Plan) :
    ∃ name, location = place disk.workingDirectory
      (configOfPlan baseDir workingDirectory (join baseDir planFile) source plan).baseDir ++ [name] := by
  obtain ⟨parent, name, up, below, bare⟩ := Disk.exists_parent_of_find found
  refine ⟨name, ?_⟩
  rw [configOfPlan.eq_def, up]
  cases parent with
  | cons c rest => exact below
  | nil =>
      -- Without a slash in the path of the plan there is no base directory either.
      have empty : baseDir = [] := by_contra fun occupied => bare rfl (slash_mem_join occupied planFile)
      rw [below, place_nil, empty]
      rfl

theorem sourcePath_configOfPlan {workingDirectory : Text} (absolute : isAbsolute workingDirectory = true)
    (baseDir path file : Text) (plan : Plan) :
    (configOfPlan baseDir workingDirectory path (some file) plan).sourcePath =
      join workingDirectory (join baseDir file) := by
  have source : (configOfPlan baseDir workingDirectory path (some file) plan).source =
      join workingDirectory (join baseDir file) := by
    simp only [configOfPlan]
    split <;> rfl
  rw [Config.sourcePath, source, join, isAbsolute_join_of_isAbsolute absolute, Bool.true_or, if_pos rfl]

/-- With a plan a script is read where it is read without one, and the output directory is read where the plan
lies. That is the same directory as without a plan if it is absolute or the plan lies in the base directory, and
only then if it never leads upwards. -/
theorem configFor_places (named : ∀ name ∈ disk.workingDirectory, IsName name)
    (asked : request.plan = some planFile) (given : request.source = some file)
    (directed : request.outputDir = some dir)
    (loaded : (Plan.load (join baseDir planFile) : OnDisk (Except ConfigError Plan)).run disk = (.ok plan, disk)) :
    let source := place disk.workingDirectory (join baseDir file)
    let output := place disk.workingDirectory (join baseDir dir)
    ∃ config directory name content, Configures baseDir request disk config ∧
      (∀ colour, ((runSplit baseDir colour request : OnDisk (Except Failure Text)).run disk).2 =
        ((Split.run config : OnDisk (Except SplitError Report)).run disk).2) ∧
      disk.find (join baseDir planFile) = .ok (directory ++ [name], .file content) ∧
      isAbsolute config.sourcePath = true ∧ config.Lies disk source (place directory dir) ∧
      (isAbsolute dir = true ∨ directory = place disk.workingDirectory baseDir → place directory dir = output) ∧
      (['.', '.'] ∉ dir.splitOn '/' → place directory dir = output →
        isAbsolute dir = true ∨ directory = place disk.workingDirectory baseDir) ∧
      ∀ options other, options.plan = none → options.source = some file → options.outputDir = some dir →
        Configures baseDir options disk other → other.Lies disk source output := by
  intro source output
  obtain ⟨text, held, -⟩ := Plan.run_load_eq_ok_iff.mp loaded
  obtain ⟨location, found⟩ := Disk.exists_find_of_read held
  have run := run_configFor_of_load asked loaded
  rw [given] at run
  have root : isAbsolute (ofLocation disk.workingDirectory) = true := rfl
  have path := sourcePath_configOfPlan root baseDir (join baseDir planFile) file plan
  obtain ⟨name, below⟩ := place_baseDir_configOfPlan found (ofLocation disk.workingDirectory) (some file) plan
  generalize configOfPlan baseDir (ofLocation disk.workingDirectory) (join baseDir planFile) (some file) plan =
    read at run path below
  have kept : (override request read).sourcePath = read.sourcePath := rfl
  have configured : Configures baseDir request disk (override request read) := ⟨read, run, rfl⟩
  refine ⟨override request read, place disk.workingDirectory read.baseDir, name, text.bytes, configured,
    run_runSplit_of_configures configured, below ▸ found, ?_, ⟨?_, outputPlace_override directed read disk⟩,
    place_eq_place_join, fun down => (place_eq_place_join_iff down).mp,
    fun options other free named directed h => places_of_options free named directed h⟩
  · rw [kept, path, isAbsolute_join_of_isAbsolute root]
  · rw [Config.sourcePlace, kept, path, place_join, place_ofLocation named]

def plannedText : Text := "\x7b\"source\":\"game.js\",\"default\":\"a.js\"\x7d"

def plannedDisk : Disk where
  entries :=
    [(["home"], .directory), (["home", "plans"], .directory),
      (["home", "plans", "split.json"], .file plannedText.bytes)]
  workingDirectory := ["home"]

def plannedRequest : SplitRequest :=
  { plan := some "plans/split.json".toList, source := some "game.js".toList, outputDir := some "out".toList }

theorem run_load_plannedDisk :
    (Plan.load (join ['.'] "plans/split.json") : OnDisk (Except ConfigError Plan)).run plannedDisk =
      (.ok { source := "game.js", default := "a.js" }, plannedDisk) :=
  Plan.run_load_eq_ok_iff.mpr ⟨plannedText, rfl, by decide +kernel⟩

theorem configFor_places_plannedDisk :
    (∀ name ∈ plannedDisk.workingDirectory, IsName name) ∧
    ∃ config directory name content, Configures ['.'] plannedRequest plannedDisk config ∧
      plannedDisk.find "./plans/split.json" = .ok (directory ++ [name], .file content) ∧
      config.Lies plannedDisk ["home", "game.js"] (place directory "out") ∧
      (place directory "out" = ["home", "out"] → directory = ["home"]) := by
  have named : ∀ name ∈ plannedDisk.workingDirectory, IsName name := by decide
  have asked : plannedRequest.plan = some "plans/split.json".toList := rfl
  have given : plannedRequest.source = some "game.js".toList := rfl
  have directed : plannedRequest.outputDir = some "out".toList := rfl
  obtain ⟨config, directory, name, content, configured, -, found, -, lies, -, only, -⟩ :=
    configFor_places named asked given directed run_load_plannedDisk
  refine ⟨named, config, directory, name, content, configured, found, lies, fun same => ?_⟩
  exact (only (by decide) same).resolve_left (by decide)

/-- With a plan in a directory of its own an output directory is another than without the plan. -/
theorem configFor_plannedDisk :
    ∃ planned free, Configures ['.'] plannedRequest plannedDisk planned ∧
      Configures ['.'] { plannedRequest with plan := none, destinations := ["a.js"] } plannedDisk free ∧
      free.outputPlace plannedDisk = ["home", "out"] ∧
      place plannedDisk.workingDirectory (join ['.'] "out") = ["home", "out"] ∧
      planned.outputPlace plannedDisk = ["home", "plans", "out"] ∧
      planned.sourcePlace plannedDisk = free.sourcePlace plannedDisk :=
  ⟨_, _, ⟨_, run_configFor_of_load rfl run_load_plannedDisk, rfl⟩, ⟨_, rfl, rfl⟩, by decide +kernel, by decide +kernel,
    by decide +kernel, by decide +kernel⟩

end Command
end ScriptSplit
