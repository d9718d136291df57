import ScriptSplit.Config
import ScriptSplit.Proofs.Assignment.Order
import ScriptSplit.Proofs.Split.Run

namespace ScriptSplit
open ScriptSplit.Lists

theorem Selection.foldl_append (selections : List Selection) (before : Selection) :
    selections.foldl Selection.append before =
      before.append ⟨selections.flatMap Selection.indices, selections.flatMap Selection.ignored⟩ := by
  induction selections generalizing before with
  | nil => exact (Selection.append_empty before).symm
  | cons first rest ih => simp [ih, Selection.append]

namespace Plan

variable (plan : Plan) (baseDir : Text)

def selectionOf (label : Text) : Selection :=
  let selections := (plan.entries.filter fun entry => entry.label = label).map fun entry => Selection.parse entry.select
  ⟨selections.flatMap Selection.indices, selections.flatMap Selection.ignored⟩

def fullSelections : List (Text × Text) := plan.entries.map fun entry => (entry.label, entry.select)

def fullConfig : Config :=
  Config.selectAll
    { source := plan.source
      baseDir
      outputDir := plan.outputDir
      destinations := plan.default :: plan.entries.map PlanEntry.label } plan.fullSelections

def withDefaultUnasked : Plan :=
  { plan with entries := plan.entries.map fun entry =>
      if entry.label = plan.default then { entry with select := [] } else entry }

theorem fullConfig_eq : plan.fullConfig baseDir =
    { plan.config baseDir with selections := plan.fullSelections } := Config.selectAll_eq _ _

theorem trimmed_selections_config :
    Selections.trimmed (plan.config baseDir).selections = Selections.trimmed plan.fullSelections := by
  have kept : (plan.config baseDir).selections = plan.fullSelections.filter fun raw => !raw.2.trim.isEmpty := by
    rw [fullSelections, List.filter_map]
    rfl
  rw [kept, Selections.trimmed, List.filterMap_filter, Selections.trimmed]
  apply List.filterMap_congr
  rintro ⟨label, raw⟩ -
  by_cases blank : raw.trim.isEmpty <;> simp [blank]

theorem requests_config (destinations : List Text) :
    Assignment.requests destinations (Selections.parse plan.fullSelections) =
      Assignment.requests destinations (plan.config baseDir).parsedSelections := by
  rw [← Assignment.requests_trimmed, ← plan.trimmed_selections_config baseDir, Assignment.requests_trimmed]
  rfl

theorem getD_lookup_fullSelections (label : Text) :
    ((Selections.parse plan.fullSelections).lookup label).getD {} = plan.selectionOf label := by
  rw [Selections.getD_lookup_parse, Selections.hearAll, fullSelections, List.filter_map, List.foldl_map]
  have merged := Selection.foldl_append
    ((plan.entries.filter fun entry => entry.label = label).map fun entry => Selection.parse entry.select) {}
  rw [List.foldl_map] at merged
  exact merged

theorem getD_lookup_config (label : Text) :
    ((plan.config baseDir).parsedSelections.lookup label).getD {} = plan.selectionOf label := by
  rw [← getD_lookup_fullSelections, Config.parsedSelections, Selections.getD_lookup_parse,
    Selections.getD_lookup_parse, ← Selections.hearAll_trimmed, trimmed_selections_config, Selections.hearAll_trimmed]

theorem map_label_withDefaultUnasked :
    plan.withDefaultUnasked.entries.map PlanEntry.label = plan.entries.map PlanEntry.label := by
  rw [withDefaultUnasked, List.map_map]
  apply List.map_congr_left
  intro entry _
  by_cases same : entry.label = plan.default <;> simp [same]

theorem selectionOf_withDefaultUnasked {label : Text} (differs : label ≠ plan.default) :
    plan.withDefaultUnasked.selectionOf label = plan.selectionOf label := by
  have others : plan.withDefaultUnasked.entries.filter (fun entry => entry.label = label) =
      plan.entries.filter fun entry => entry.label = label := by
    rw [withDefaultUnasked, List.filter_map]
    conv_rhs => rw [← List.map_id (plan.entries.filter _)]
    have named : ((fun entry : PlanEntry => decide (entry.label = label)) ∘ fun entry =>
        if entry.label = plan.default then { entry with select := [] } else entry) =
        fun entry => decide (entry.label = label) := by
      funext entry
      by_cases same : entry.label = plan.default <;> simp [same]
    rw [named]
    apply List.map_congr_left
    intro entry member
    have own : entry.label = label := of_decide_eq_true (List.mem_filter.mp member).2
    exact if_neg (own ▸ differs)
  rw [selectionOf, others, selectionOf]

theorem requests_withDefaultUnasked (rest : List Text) :
    Assignment.requests (plan.default :: rest) (plan.withDefaultUnasked.config baseDir).parsedSelections =
      Assignment.requests (plan.default :: rest) (plan.config baseDir).parsedSelections := by
  change (Assignment.others _).flatMap (Assignment.requestsFrom _) =
    (Assignment.others _).flatMap (Assignment.requestsFrom _)
  apply List.flatMap_congr
  intro label listed
  have differs := (Assignment.mem_others_iff.mp listed).2
  rw [Assignment.requestsFrom_eq_requestsOf, Assignment.requestsFrom_eq_requestsOf, getD_lookup_config,
    getD_lookup_config, selectionOf_withDefaultUnasked plan differs]

/-- A plan's configuration splits like the one with the selections of all entries. Each label asks for what its
entries say in order, a label that was listed before is reported, and what entries say for the default label is
not heard. -/
theorem config_says_entries :
    let config := plan.config baseDir
    let full := plan.fullConfig baseDir
    config.destinations = plan.default :: plan.entries.map PlanEntry.label ∧
    full.destinations = config.destinations ∧
    (∀ elements, config.assignment elements = full.assignment elements) ∧
    (∀ (m : Type → Type) [Monad m] [Host m], (Split.run config : m _) = Split.run full ∧
      ∀ outline, (Split.runWith config outline : m _) = Split.runWith full outline) ∧
    (∀ label, (config.parsedSelections.lookup label).getD {} = plan.selectionOf label ∧
      (full.parsedSelections.lookup label).getD {} = plan.selectionOf label) ∧
    (∀ elements, (config.assignment elements).warnings =
      (repeats config.destinations).map .duplicateDestination) ∧
    ∀ elements, (plan.withDefaultUnasked.config baseDir).assignment elements = config.assignment elements := by
  intro config full
  have whole : full = { config with selections := plan.fullSelections } := plan.fullConfig_eq baseDir
  have same := plan.requests_config baseDir config.destinations
  refine ⟨rfl, by rw [whole], fun elements => ?_, fun m _ _ => ⟨?_, fun outline => ?_⟩,
    fun label => ⟨plan.getD_lookup_config baseDir label, ?_⟩, fun elements => ?_, fun elements => ?_⟩
  · rw [whole]
    exact Assignment.assign_of_requests same.symm elements
  · rw [whole]
    exact (Split.run_of_requests same).symm
  · rw [whole]
    exact (Split.runWith_of_requests same outline).symm
  · rw [whole]
    exact plan.getD_lookup_fullSelections label
  · exact Assignment.warnings_eq_repeats elements config.destinations config.parsedSelections
  · change assign elements (plan.default :: plan.withDefaultUnasked.entries.map PlanEntry.label) _ = _
    rw [plan.map_label_withDefaultUnasked]
    exact Assignment.assign_of_requests (plan.requests_withDefaultUnasked baseDir _) elements

end Plan

end ScriptSplit
