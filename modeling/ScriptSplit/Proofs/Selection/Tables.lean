import ScriptSplit.Config
import ScriptSplit.Proofs.Lists.Past
import ScriptSplit.Proofs.Selection
import Mathlib.Data.List.Nodup

namespace ScriptSplit
open ScriptSplit.Lists

namespace Selection

theorem append_empty (selection : Selection) : selection.append {} = selection := by
  simp [append]

theorem append_assoc (first second third : Selection) :
    (first.append second).append third = first.append (second.append third) := by
  simp [append]

theorem words_append_comma (first second : Text) : words (first ++ ',' :: second) = words first ++ words second := by
  rw [words, List.splitOnP_append_cons first second rfl, List.map_append, List.filter_append, words, words]

theorem parse_append_comma (first second : Text) :
    parse (first ++ ',' :: second) = (parse first).append (parse second) := by
  have outside : Text.isDecimal ',' = false := isDecimal_of_separates rfl
  rw [parse, words_append_comma, Text.runs_append_cons outside, List.map_append, List.filter_append]
  rfl

theorem foldl_append_parse (texts : List Text) (before : Selection) :
    texts.foldl (fun selection text => selection.append (parse text)) before =
      before.append (parse (List.intercalate [','] texts)) := by
  induction texts generalizing before with
  | nil => exact (append_empty before).symm
  | cons text rest ih =>
      rw [List.foldl_cons, ih, append_assoc]
      cases rest with
      | nil => rw [List.intercalate_singleton]; exact congrArg before.append (append_empty _)
      | cons next later =>
          rw [List.intercalate_cons_of_ne_nil (List.cons_ne_nil next later), List.append_assoc, List.singleton_append,
            parse_append_comma]

end Selection

namespace Selections

variable (label : Text)

def textsOf (raws : List (Text × Text)) : List Text := (raws.filter fun raw => raw.1 = label).map Prod.snd

def hearAll (raws : List (Text × Text)) (before : Selection) : Selection :=
  (raws.filter fun raw => raw.1 = label).foldl (fun selection raw => selection.append (Selection.parse raw.2)) before

theorem hearAll_eq_parse (raws : List (Text × Text)) :
    hearAll label raws {} = Selection.parse (List.intercalate [','] (textsOf label raws)) := by
  have joined := Selection.foldl_append_parse (textsOf label raws) {}
  rw [textsOf, List.foldl_map] at joined
  exact joined

theorem lookup_add (table : Selections) (selection : Selection) (other : Text) :
    (table.add label selection).lookup other =
      if other = label then some (((table.lookup label).getD {}).append selection) else table.lookup other := by
  induction table with
  | nil => by_cases same : other = label <;> simp [add, same, Selection.append]
  | cons entry rest ih =>
      obtain ⟨known, present⟩ := entry
      by_cases here : known = label
      · subst here
        cases same : other == known with
        | true => simp [add, eq_of_beq same]
        | false => simp [add, List.lookup_cons, same, ne_of_beq_false same]
      · have apart : (label == known) = false := beq_eq_false_iff_ne.mpr (Ne.symm here)
        rw [add, if_neg here, List.lookup_cons, List.lookup_cons, List.lookup_cons, apart, ih]
        cases same : other == known with
        | true => simp [eq_of_beq same, here]
        | false => rfl

theorem map_fst_add (table : Selections) (selection : Selection) : (table.add label selection).map Prod.fst =
    table.map Prod.fst ++ if label ∈ table.map Prod.fst then [] else [label] := by
  induction table with
  | nil => rfl
  | cons entry rest ih =>
      obtain ⟨known, present⟩ := entry
      by_cases here : known = label
      · simp [add, here]
      · have later : label ∈ ((known, present) :: rest).map Prod.fst ↔ label ∈ rest.map Prod.fst := by
          simp [Ne.symm here]
        rw [add, if_neg here, List.map_cons, ih, if_congr later rfl rfl]
        rfl

theorem map_fst_parse (raws : List (Text × Text)) : (parse raws).map Prod.fst = firsts (raws.map Prod.fst) := by
  induction raws using List.reverseRecOn with
  | nil => rfl
  | append_singleton raws raw ih =>
      rw [parse, List.foldl_concat, List.map_append, List.map_singleton, firsts_concat, map_fst_add]
      change (parse raws).map Prod.fst ++ (if _ ∈ (parse raws).map Prod.fst then _ else _) = _
      rw [ih]
      simp only [mem_firsts]

theorem getD_lookup_parse (raws : List (Text × Text)) :
    ((parse raws).lookup label).getD {} = hearAll label raws {} := by
  have accumulates (table : Selections) :
      ((raws.foldl (fun table raw => table.add raw.1 (Selection.parse raw.2)) table).lookup label).getD {} =
        hearAll label raws ((table.lookup label).getD {}) := by
    induction raws generalizing table with
    | nil => rfl
    | cons raw rest ih =>
        rw [List.foldl_cons, ih, lookup_add]
        by_cases same : raw.1 = label
        · simp [hearAll, same]
        · simp [hearAll, same, Ne.symm same]
  exact accumulates []

theorem mem_labels_iff {raws : List (Text × Text)} :
    label ∈ (parse raws).map Prod.fst ↔ label ∈ raws.map Prod.fst := by
  rw [map_fst_parse, mem_firsts]

theorem lookup_parse (raws : List (Text × Text)) : (parse raws).lookup label =
    if label ∈ raws.map Prod.fst then some (Selection.parse (List.intercalate [','] (textsOf label raws)))
    else none := by
  have told := getD_lookup_parse label raws
  cases found : (parse raws).lookup label with
  | none =>
      have absent : label ∉ raws.map Prod.fst := by
        rw [← mem_labels_iff]
        exact lookup_eq_none_iff_not_mem.mp found
      rw [if_neg absent]
  | some selection =>
      have listed : label ∈ raws.map Prod.fst := by
        rw [← mem_labels_iff]
        by_contra absent
        rw [lookup_eq_none_iff_not_mem.mpr absent] at found
        cases found
      rw [found, Option.getD_some] at told
      rw [if_pos listed, told, hearAll_eq_parse]

theorem mem_labels_iff_textsOf {raws : List (Text × Text)} :
    label ∈ raws.map Prod.fst ↔ textsOf label raws ≠ [] := by
  simp [textsOf, List.filter_eq_nil_iff]

theorem lookup_parse_congr {raws others : List (Text × Text)} (same : textsOf label raws = textsOf label others) :
    (parse raws).lookup label = (parse others).lookup label := by
  rw [lookup_parse, lookup_parse, same]
  refine if_congr ?_ rfl rfl
  rw [mem_labels_iff_textsOf, mem_labels_iff_textsOf, same]

theorem nodup_labels (raws : List (Text × Text)) : ((parse raws).map Prod.fst).Nodup := by
  rw [map_fst_parse]
  exact nodup_firsts _

theorem parse_perm {raws others : List (Text × Text)} (same : ∀ label, textsOf label raws = textsOf label others) :
    (parse raws).Perm (parse others) := by
  have distinct (raws : List (Text × Text)) : (parse raws).Nodup := List.Nodup.of_map Prod.fst (nodup_labels raws)
  rw [List.perm_ext_iff_of_nodup (distinct raws) (distinct others)]
  rintro ⟨label, selection⟩
  rw [mem_iff_lookup (nodup_labels raws), mem_iff_lookup (nodup_labels others),
    lookup_parse_congr label (same label)]

def trimmed (raws : List (Text × Text)) : List (Text × Text) :=
  raws.filterMap fun (label, raw) => if raw.trim.isEmpty then none else some (label, raw.trim)

theorem hearAll_trimmed (raws : List (Text × Text)) (before : Selection) :
    hearAll label (trimmed raws) before = hearAll label raws before := by
  induction raws generalizing before with
  | nil => rfl
  | cons raw rest ih =>
      by_cases blank : raw.2.trim = []
      · have nothing : trimmed (raw :: rest) = trimmed rest := by simp [trimmed, blank]
        rw [nothing, ih]
        by_cases same : raw.1 = label
        · simp [hearAll, same, Selection.parse_of_trim_eq_nil blank, Selection.append_empty]
        · simp [hearAll, same]
      -- Any other text says the same without the blanks around it.
      · have kept : trimmed (raw :: rest) = (raw.1, raw.2.trim) :: trimmed rest := by simp [trimmed, blank]
        rw [kept]
        by_cases same : raw.1 = label
        · have later := ih (before.append (Selection.parse raw.2))
          simpa [hearAll, same, Selection.parse_trim] using later
        · simpa [hearAll, same] using ih before

theorem parse_map_trim (raws : List (Text × Text)) :
    parse (raws.map fun (label, raw) => (label, raw.trim)) = parse raws := by
  rw [parse, List.foldl_map, parse]
  simp only [Selection.parse_trim]

end Selections

def Config.selectAll (config : Config) (raws : List (Text × Text)) : Config :=
  raws.foldl (fun config raw => config.select raw.1 raw.2) config

theorem Config.selectAll_eq (config : Config) (raws : List (Text × Text)) :
    config.selectAll raws = { config with selections := config.selections ++ raws } := by
  induction raws generalizing config with
  | nil => simp [selectAll]
  | cons raw rest ih =>
      have first : config.selectAll (raw :: rest) = (config.select raw.1 raw.2).selectAll rest := rfl
      rw [first, ih]
      simp [select]

open Selections in
theorem Config.parsedSelections_joined (config : Config) :
    (config.parsedSelections.map Prod.fst).Nodup ∧
    (∀ label, label ∈ config.parsedSelections.map Prod.fst ↔ label ∈ config.selections.map Prod.fst) ∧
    (∀ label ∈ config.selections.map Prod.fst, config.parsedSelections.lookup label =
      some (Selection.parse (List.intercalate [','] (textsOf label config.selections)))) ∧
    ∀ raws : List (Text × Text),
      (∀ label, textsOf label raws = textsOf label config.selections →
        { config with selections := raws }.parsedSelections.lookup label = config.parsedSelections.lookup label) ∧
      ((∀ label, textsOf label raws = textsOf label config.selections) →
        { config with selections := raws }.parsedSelections.Perm config.parsedSelections) := by
  refine ⟨nodup_labels _, fun label => mem_labels_iff label, fun label listed => ?_, fun raws => ⟨?_, parse_perm⟩⟩
  · exact (lookup_parse label config.selections).trans (if_pos listed)
  · exact fun label same => lookup_parse_congr label same

end ScriptSplit
