import ScriptSplit.Proofs.Assignment.Groups
import ScriptSplit.Proofs.Assignment.Second
import ScriptSplit.Proofs.Lists.Past
import ScriptSplit.Proofs.Selection.Tables
import ScriptSplit.Split
import Mathlib.Data.List.Forall2

namespace ScriptSplit

def Config.assignment (config : Config) (elements : List Element) : Assignment :=
  assign elements config.destinations config.parsedSelections

theorem Config.map_label_groups (config : Config) (elements : List Element) :
    (config.assignment elements).groups.map Group.label = config.destinations.eraseDups :=
  Assignment.map_label_groups elements config.parsedSelections config.destinations

theorem Config.nodup_labels (config : Config) (elements : List Element) :
    ((config.assignment elements).groups.map Group.label).Nodup :=
  config.map_label_groups elements ▸ Lists.nodup_eraseDups config.destinations

namespace Split

def Outcome.label : Outcome → Text
  | empty label => label
  | written file => file.label
  | failed failure => failure.label

/-- What may become of a group. -/
inductive Settled (config : Config) (group : Group) : Outcome → Prop
  | empty (bare : group.text? = none) : Settled config group (.empty group.label)
  | written (content : Text) (emitted : group.text? = some content) :
      Settled config group (.written (plannedFile config group content))
  | failed (content error : Text) (emitted : group.text? = some content) (real : config.dryRun = false) :
      Settled config group (.failed ⟨group.label, config.filePath group.label, error⟩)

theorem Settled.label_eq {config : Config} {group : Group} {outcome : Outcome}
    (h : Settled config group outcome) : outcome.label = group.label := by
  cases h <;> rfl

variable {σ : Type} [Host (StateM σ)]

theorem settled_settle (config : Config) (group : Group) (state : σ) :
    Settled config group ((settle config group : StateM σ Outcome).run state).1 := by
  cases emitted : group.text? with
  | none =>
      simp only [settle, emitted]
      exact .empty emitted
  | some content =>
      cases dry : config.dryRun with
      | true =>
          simp only [settle, emitted, dry]
          exact .written content emitted
      | false =>
          simp only [settle, emitted, dry, Bool.false_eq_true, if_false, StateT.run_bind]
          cases answer : (Host.write (plannedFile config group content).path content.bytes :
              StateM σ (Except FileError PUnit)).run state with
          | mk result later =>
              cases result with
              | ok done => exact .written content emitted
              | error error => exact .failed content error.message emitted dry

theorem forall₂_settleAll (config : Config) (groups : List Group) (state : σ) :
    List.Forall₂ (Settled config) groups ((settleAll config groups : StateM σ (List Outcome)).run state).1 := by
  induction groups generalizing state with
  | nil => exact .nil
  | cons group rest ih =>
      exact .cons (settled_settle config group state) (ih ((settle config group : StateM σ Outcome).run state).2)

def stateAfter (config : Config) (groups : List Group) (state : σ) : σ :=
  groups.foldl (fun state group => ((settle config group : StateM σ Outcome).run state).2) state

theorem stateAfter_concat (config : Config) (before : List Group) (group : Group) (state : σ) :
    stateAfter config (before ++ [group]) state =
      ((settle config group : StateM σ Outcome).run (stateAfter config before state)).2 := by
  rw [stateAfter, List.foldl_append]
  rfl

theorem run_settleAll (config : Config) (groups : List Group) (state : σ) :
    (settleAll config groups : StateM σ (List Outcome)).run state =
      ((Lists.withPast groups).map fun turn =>
          ((settle config turn.2 : StateM σ Outcome).run (stateAfter config turn.1 state)).1,
        stateAfter config groups state) := by
  induction groups generalizing state with
  | nil => rfl
  | cons group rest ih =>
      let settled := (settle config group : StateM σ Outcome).run state
      have run : (settleAll config (group :: rest) : StateM σ (List Outcome)).run state =
          (settled.1 :: ((settleAll config rest : StateM σ (List Outcome)).run settled.2).1,
            ((settleAll config rest : StateM σ (List Outcome)).run settled.2).2) := rfl
      rw [run, ih, Lists.withPast, List.map_cons, List.map_map]
      rfl

theorem map_label_of_settled {config : Config} {groups : List Group} {outcomes : List Outcome}
    (h : List.Forall₂ (Settled config) groups outcomes) :
    outcomes.map Outcome.label = groups.map Group.label := by
  induction h with
  | nil => rfl
  | cons settled _ ih => rw [List.map_cons, List.map_cons, settled.label_eq, ih]

theorem sublist_map_label {α : Type} {pick : Outcome → Option α} {name : α → Text}
    (named : ∀ outcome item, pick outcome = some item → name item = outcome.label) (outcomes : List Outcome) :
    ((outcomes.filterMap pick).map name).Sublist (outcomes.map Outcome.label) := by
  induction outcomes with
  | nil => exact .slnil
  | cons outcome rest ih =>
      cases picked : pick outcome with
      | none =>
          rw [List.filterMap_cons_none picked]
          exact ih.cons outcome.label
      | some item =>
          rw [List.filterMap_cons_some picked, List.map_cons, List.map_cons, named outcome item picked]
          exact ih.cons_cons outcome.label

theorem sublist_map_label_file? (outcomes : List Outcome) :
    ((outcomes.filterMap Outcome.file?).map WrittenFile.label).Sublist (outcomes.map Outcome.label) :=
  sublist_map_label (fun outcome file picked => by cases outcome <;> cases picked; rfl) outcomes

variable (config : Config) (outline : Outline)

def readied (elements : List Element) (state : σ) : σ :=
  let noted := (Host.notes (Assignment.log elements config.destinations config.parsedSelections) :
    StateM σ PUnit).run state
  ((prepare config : StateM σ PUnit).run noted.2).2

theorem run_runWith_of_invalid {error : ConfigError} (invalid : config.invalid? = some error) (state : σ) :
    (runWith config outline : StateM σ _).run state = (.error (.config error), state) := by
  simp only [runWith, invalid]
  rfl

theorem run_runWith_of_bare (valid : config.invalid? = none) (bare : outline.elements = []) (state : σ) :
    (runWith config outline : StateM σ _).run state = (.error (.noElements outline.path), state) := by
  simp only [runWith, valid, bare]
  rfl

theorem run_runWith (valid : config.invalid? = none) (occupied : outline.elements ≠ []) (state : σ) :
    (runWith config outline : StateM σ _).run state =
      let assignment := config.assignment outline.elements
      let settled := (settleAll config assignment.groups : StateM σ _).run
        (readied config outline.elements state)
      (.ok (report config outline assignment settled.1), settled.2) := by
  simp only [runWith, valid, List.isEmpty_eq_false_iff.mpr occupied, Bool.false_eq_true, if_false]
  rfl

end Split
/-! ## Runs on trimmed selections -/

namespace Assignment

theorem requestsFrom_eq_requestsOf (selections : Selections) (label : Text) :
    requestsFrom selections label = requestsOf label ((selections.lookup label).getD {}) := by
  cases found : selections.lookup label <;> simp [requestsFrom, found, requestsOf]

theorem requests_trimmed (destinations : List Text) (raws : List (Text × Text)) :
    requests destinations (Selections.parse (Selections.trimmed raws)) =
      requests destinations (Selections.parse raws) := by
  change (others destinations).flatMap (requestsFrom _) = (others destinations).flatMap (requestsFrom _)
  refine congrArg (List.flatMap · (others destinations)) (funext fun label => ?_)
  rw [requestsFrom_eq_requestsOf, requestsFrom_eq_requestsOf, Selections.getD_lookup_parse,
    Selections.getD_lookup_parse, Selections.hearAll_trimmed]

theorem assign_of_requests {destinations : List Text} {first second : Selections}
    (same : requests destinations first = requests destinations second) (elements : List Element) :
    assign elements destinations first = assign elements destinations second := by
  simp only [assign, rulings, same]

end Assignment

namespace Split
variable {m : Type → Type} [Monad m] [Host m]

theorem settleAll_select (config : Config) (selections : List (Text × Text)) (groups : List Group) :
    (settleAll { config with selections } groups : m (List Outcome)) = settleAll config groups := by
  induction groups with
  | nil => rfl
  | cons group rest ih =>
      rw [settleAll, settleAll, ih]
      rfl

section Requests
variable {config : Config} {selections : List (Text × Text)}
  (same : Assignment.requests config.destinations (Selections.parse selections) =
    Assignment.requests config.destinations config.parsedSelections)
include same

theorem runWith_of_requests (outline : Outline) :
    (runWith { config with selections } outline : m _) = runWith config outline := by
  have ruled : Assignment.rulings outline.elements config.destinations (Selections.parse selections) =
      Assignment.rulings outline.elements config.destinations (Selections.parse config.selections) := by
    rw [Assignment.rulings, same, Config.parsedSelections, Assignment.rulings]
  simp only [runWith, assign, Assignment.log, Config.parsedSelections, settleAll_select, ruled]
  rfl

theorem run_of_requests : (run { config with selections } : m _) = run config := by
  simp only [run, runWith_of_requests same]
  rfl

end Requests

theorem runWith_trimmed (config : Config) (outline : Outline) :
    (runWith { config with selections := Selections.trimmed config.selections } outline : m _) =
      runWith config outline :=
  runWith_of_requests (Assignment.requests_trimmed config.destinations config.selections) outline

end Split

end ScriptSplit
