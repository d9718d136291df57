import ScriptSplit.Command.Run
import ScriptSplit.Proofs.Selection.Tables
import ScriptSplit.Proofs.Split.Run
import ScriptSplit.Proofs.Text.Cutting

namespace ScriptSplit.Command

def argumentOf (selection : Text × Text) : Text := selection.1 ++ '=' :: selection.2

theorem assignment?_of_firstEquals {before : Text} (absent : '=' ∉ before) (after : Text) :
    assignment? (before ++ '=' :: after) = .ok (before.trim, after.trim) := by
  have cut : (before ++ '=' :: after).cut "=" = some (before, after) := Text.cut_append_cons absent after
  rw [assignment?, cut]

theorem assignment?_argumentOf {label : Text} (plain : '=' ∉ label) (bare : label.trim = label) (raw : Text) :
    assignment? (argumentOf (label, raw)) = .ok (label, raw.trim) := by
  rw [argumentOf, assignment?_of_firstEquals plain, bare]

theorem assignment?_argumentOf_iff {label : Text} (bare : label.trim = label) (raw : Text) :
    assignment? (argumentOf (label, raw)) = .ok (label, raw.trim) ↔ '=' ∉ label := by
  refine ⟨fun read inside => ?_, fun plain => assignment?_argumentOf plain bare raw⟩
  obtain ⟨before, after, rfl, absent⟩ := List.eq_append_cons_of_mem inside
  have whole : argumentOf (before ++ '=' :: after, raw) = before ++ '=' :: (after ++ '=' :: raw) := by
    simp [argumentOf]
  rw [whole, assignment?_of_firstEquals absent, Except.ok.injEq, Prod.mk.injEq] at read
  -- What stands before the equals sign is shorter than the label, trimmed or not.
  have shorter := (Text.trim_infix before).length_le
  rw [read.1, List.length_append, List.length_cons] at shorter
  omega

theorem mapM_eq_ok {ε α β : Type} {f : α → Except ε β} {g : α → β} {values : List α}
    (all : ∀ value ∈ values, f value = .ok (g value)) : values.mapM f = .ok (values.map g) := by
  induction values with
  | nil => rfl
  | cons value rest ih =>
      obtain ⟨first, later⟩ := List.forall_mem_cons.mp all
      rw [List.mapM_cons, first, ih later]
      rfl

section Options
variable {baseDir source : Text} {request : SplitRequest} {selections : List (Text × Text)}

def SplitRequest.asking (request : SplitRequest) (source : Text) (selections : List (Text × Text)) : SplitRequest :=
  { request with source := some source, assignments := selections.map argumentOf }

theorem configOfOptions_asking (occupied : request.destinations ≠ [])
    (addressed : ∀ selection ∈ selections, '=' ∉ selection.1 ∧ selection.1.trim = selection.1) :
    configOfOptions baseDir (request.asking source selections) =
      .ok { source, baseDir, destinations := request.destinations
            selections := selections.map fun (label, raw) => (label, raw.trim) } := by
  have read : (selections.map argumentOf).mapM assignment? =
      .ok (selections.map fun (label, raw) => (label, raw.trim)) := by
    rw [List.mapM_map]
    refine mapM_eq_ok fun (label, raw) member => ?_
    obtain ⟨plain, bare⟩ := addressed _ member
    exact assignment?_argumentOf plain bare raw
  have listed : request.destinations.isEmpty = false := List.isEmpty_eq_false_iff.mpr occupied
  simp only [configOfOptions, SplitRequest.asking, listed, read]
  rfl

end Options

theorem configOfOptions_addressed (baseDir source : Text) {request : SplitRequest} {selections : List (Text × Text)}
    (occupied : request.destinations ≠ [])
    (addressed : ∀ selection ∈ selections, '=' ∉ selection.1 ∧ selection.1.trim = selection.1) :
    let built := Config.selectAll { source, baseDir, destinations := request.destinations } selections
    (∃ config, configOfOptions baseDir (request.asking source selections) = .ok config ∧
      config.destinations = built.destinations ∧ config.parsedSelections = built.parsedSelections ∧
      (∀ elements, config.assignment elements = built.assignment elements) ∧
      ∀ (m : Type → Type) [Monad m] [Host m], (Split.run config : m _) = Split.run built ∧
        ∀ outline, (Split.runWith config outline : m _) = Split.runWith built outline) ∧
    ∀ label raw : Text, label.trim = label →
      (assignment? (argumentOf (label, raw)) = .ok (label, raw.trim) ↔ '=' ∉ label) := by
  intro built
  have whole : built = { source, baseDir, destinations := request.destinations, selections } :=
    Config.selectAll_eq _ _
  have parsed : Selections.parse (selections.map fun (label, raw) => (label, raw.trim)) = built.parsedSelections := by
    rw [Selections.parse_map_trim, whole]
    rfl
  have same := congrArg (Assignment.requests built.destinations) parsed
  refine ⟨⟨_, configOfOptions_asking occupied addressed, by rw [whole], parsed, fun elements => ?_,
    fun m _ _ => ⟨?_, fun outline => ?_⟩⟩, fun label raw bare => assignment?_argumentOf_iff bare raw⟩
  · rw [Config.assignment, Config.assignment, ← parsed, whole]
    rfl
  · rw [← Split.run_of_requests same, whole]
  · rw [← Split.runWith_of_requests same, whole]

def spacedRequest : SplitRequest := { destinations := ["a.js", "b.js", "c d.js"] }

def spacedSelections : List (Text × Text) := [("c d.js", " 2 , x "), ("b.js", "1=1"), ("c d.js", "")]

theorem configOfOptions_addressed_spaced :
    (spacedRequest.destinations ≠ [] ∧
      ∀ selection ∈ spacedSelections, '=' ∉ selection.1 ∧ selection.1.trim = selection.1) ∧
    ∃ config, configOfOptions "." (spacedRequest.asking "game.js" spacedSelections) = .ok config ∧
      config.parsedSelections = ([("c d.js", ⟨[2], ["x"]⟩), ("b.js", ⟨[1, 1], []⟩)] : Selections) ∧
      ∀ elements, config.assignment elements =
        (Config.selectAll { source := "game.js", destinations := spacedRequest.destinations }
          spacedSelections).assignment elements := by
  have occupied : spacedRequest.destinations ≠ [] := by decide
  have addressed : ∀ selection ∈ spacedSelections, '=' ∉ selection.1 ∧ selection.1.trim = selection.1 := by
    decide +kernel
  obtain ⟨⟨config, built, -, parsed, assigned, -⟩, -⟩ :=
    configOfOptions_addressed "." "game.js" occupied addressed
  exact ⟨⟨occupied, addressed⟩, config, built, parsed.trans (by decide +kernel), assigned⟩

def equalsRequest : SplitRequest := { destinations := ["a.js", "x", "x=y.js"] }

def equalsElements : List Element := [⟨.functionDecl, "f", ["f"], 1⟩, ⟨.classDecl, "C", ["C"], 2⟩]

def equalsBuilt (selections : List (Text × Text)) : Config :=
  Config.selectAll { source := "game.js", destinations := equalsRequest.destinations } selections

/-- The selection of a label with an equals sign is heard for the label before the sign. Both selections are
written alike, so no reading of the options does right by both. -/
theorem configOfOptions_equalsLabel :
    (equalsBuilt []).invalid? = none ∧ "x=y.js".toList ∈ equalsRequest.destinations ∧
    (∃ config, configOfOptions "." (equalsRequest.asking "game.js" [("x=y.js", "1")]) = .ok config ∧
      config.destinations = equalsRequest.destinations ∧ config.selections = ([("x", "y.js=1")] : List (Text × Text)) ∧
      config.assignment equalsElements ≠ (equalsBuilt [("x=y.js", "1")]).assignment equalsElements) ∧
    argumentOf ("x=y.js", "1") = argumentOf ("x", "y.js=1") ∧
    (equalsBuilt [("x=y.js", "1")]).assignment equalsElements ≠
      (equalsBuilt [("x", "y.js=1")]).assignment equalsElements := by
  refine ⟨by decide +kernel, by decide, ⟨_, rfl, rfl, ?_, ?_⟩, by decide, by decide +kernel⟩
  · decide +kernel
  · decide +kernel

end ScriptSplit.Command
