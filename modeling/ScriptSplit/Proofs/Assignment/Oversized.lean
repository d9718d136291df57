import ScriptSplit.Proofs.Assignment.Account
import ScriptSplit.Proofs.Assignment.Groups
import ScriptSplit.Proofs.Assignment.InRange
import ScriptSplit.Proofs.Text.Pieces

namespace ScriptSplit

namespace Selection

def indexBound : Nat := Nat.pow 2 64

theorem maxIndex_eq : maxIndex = indexBound - 1 := rfl

def capped (number : Nat) : Nat := if number < indexBound then number else indexBound - 1

theorem capped_of_lt {number : Nat} (small : number < indexBound) : capped number = number := if_pos small

theorem capped_of_not_lt {number : Nat} (large : ¬ number < indexBound) : capped number = indexBound - 1 :=
  if_neg large

theorem min_maxIndex (number : Nat) : min number maxIndex = capped number := by
  have positive : 0 < indexBound := by decide
  rw [maxIndex_eq, capped]
  split <;> omega

theorem indices_of_ascii {raw : Text} (ascii : ∀ c ∈ raw, Text.isDecimal c = true → c.isDigit = true)
    {runs : List Text} (cut : Text.MaximalRuns Text.isDecimal raw runs) :
    (parse raw).indices = runs.map fun run => capped run.number := by
  change (raw.runs Text.isDecimal).map index = _
  rw [cut.runs_eq]
  apply List.map_congr_left
  intro run member
  have digits : run.all Char.isDigit = true := List.all_eq_true.mpr fun c inside =>
    have ⟨known, decimal⟩ := cut.mem_of_mem member inside
    ascii c known decimal
  rw [index, if_pos digits, min_maxIndex]

end Selection

namespace Assignment
open ScriptSplit.Lists Selection

def refusals (assignment : Assignment) (label : Text) : List Issue :=
  (assignment.issues.filter fun issue => issue.destination = label).filter fun issue => issue.index.isSome

/-- What becomes of the runs of digits that a label asks for, beside the assignment in which it does not ask for
those that are too large: the groups and the other destinations' issues are the same, each other run is refused
on the same terms, and each run that is too large by the number of the largest index. -/
structure OversizedRefused (label : Text) (count : Nat) (runs : List Text) (whole modest : Assignment) : Prop where
  groups : whole.groups = modest.groups
  elsewhere : (whole.issues.filter fun issue => issue.destination ≠ label) =
    modest.issues.filter fun issue => issue.destination ≠ label
  refused : ∃ terms : Nat → Option Issue,
    (∀ number issue, terms number = some issue → issue.destination = label ∧ issue.index = some number) ∧
    whole.refusals label = runs.filterMap (fun run =>
      if run.number < indexBound then terms run.number
      else some ⟨label, some (indexBound - 1), .outOfRange count⟩) ∧
    modest.refusals label = (runs.filter fun run => run.number < indexBound).filterMap fun run => terms run.number

section Modest
variable {count : Nat} {selections : Selections} {label : Text} {runs ignored : List Text}

def modestly (selections : Selections) (label : Text) (runs ignored : List Text) : Selections :=
  (label, ⟨(runs.filter fun run => run.number < indexBound).map Text.number, ignored⟩) :: selections

theorem lookup_modestly_of_ne {other : Text} (differs : other ≠ label) :
    (modestly selections label runs ignored).lookup other = selections.lookup other := by
  rw [modestly, List.lookup_cons, beq_eq_false_iff_ne.mpr differs]

theorem asked_modestly : asked (modestly selections label runs ignored) label =
    (runs.filter fun run => run.number < indexBound).map Text.number := by
  simp [asked, modestly]

theorem askedInRange_modestly (few : count < indexBound - 1)
    (asks : asked selections label = runs.map fun run => capped run.number) (other : Text) :
    askedInRange count selections other = askedInRange count (modestly selections label runs ignored) other := by
  by_cases same : other = label
  · let inRange (index : Nat) : Bool := 1 ≤ index ∧ index ≤ count
    have outside : inRange (indexBound - 1) = false := decide_eq_false (by omega)
    have kept : runs.filter (fun run => inRange (capped run.number)) =
        (runs.filter fun run => run.number < indexBound).filter fun run => inRange run.number := by
      rw [List.filter_filter]
      apply List.filter_congr
      intro run _
      by_cases small : run.number < indexBound
      · simp [small, capped_of_lt small]
      · simp [small, capped_of_not_lt small, outside]
    rw [same, askedInRange, askedInRange, asks, asked_modestly, List.filter_map, List.filter_map]
    change (runs.filter fun run => inRange (capped run.number)).map _ = List.map _ (List.filter _ _)
    rw [kept]
    apply List.map_congr_left
    intro run member
    have small := (List.mem_filter.mp (List.mem_filter.mp member).1).2
    exact capped_of_lt (of_decide_eq_true small)
  · exact askedInRange_congr (lookup_modestly_of_ne same).symm count

end Modest

theorem oversized_refused (raw : Text) (ascii : ∀ c ∈ raw, Text.isDecimal c = true → c.isDigit = true) :
    ∃ runs, Text.MaximalRuns Text.isDecimal raw runs ∧
      (parse raw).indices = runs.map (fun run => capped run.number) ∧
      ∀ (elements : List Element) (default : Text) (rest : List Text) (selections : Selections) (label : Text),
        (Element.movable elements).length < indexBound - 1 → label ∈ rest → label ≠ default →
        selections.lookup label = some (parse raw) →
        OversizedRefused label (Element.movable elements).length runs
          (assign elements (default :: rest) selections)
          (assign elements (default :: rest) (modestly selections label runs (parse raw).ignored)) := by
  obtain ⟨runs, cut⟩ := Text.exists_maximalRuns Text.isDecimal raw
  have indices := indices_of_ascii ascii cut
  refine ⟨runs, cut, indices, ?_⟩
  intro elements default rest selections label few listed differs chosen
  let count := (Element.movable elements).length
  let modest := modestly selections label runs (parse raw).ignored
  have asks : asked selections label = runs.map fun run => capped run.number :=
    (congrArg (fun own => (own.getD {}).indices) chosen).trans indices
  have alike (other : Text) : askedInRange count selections other = askedInRange count modest other :=
    askedInRange_modestly few asks other
  obtain ⟨before, later, split⟩ := List.append_of_mem (mem_others_iff.mpr ⟨listed, differs⟩)
  have terms : refusal? count selections before label = refusal? count modest before label :=
    refusal?_congr_inRange fun other _ => alike other
  refine ⟨groups_congr fun other _ => alike other, ?_, refusal? count selections before label, ?_, ?_, ?_⟩
  · exact filter_issues_congr default rest alike fun other apart => (lookup_modestly_of_ne apart).symm
  · exact fun number issue refused => refusal?_eq_some refused
  · rw [refusals, filter_issues elements selections split, numbered_issuesFor, asks, List.filterMap_map]
    apply List.filterMap_congr
    intro run _
    change refusal? count selections before label (capped run.number) = _
    by_cases small : run.number < indexBound
    · rw [if_pos small, capped_of_lt small]
    · rw [if_neg small, capped_of_not_lt small, refusal?_of_outside (.inr few)]
  · rw [refusals, filter_issues elements modest split, numbered_issuesFor, asked_modestly, List.filterMap_map, ← terms]
    rfl

def hugeElements : List Element :=
  [⟨.functionDecl, "f", ["f"], 1⟩, ⟨.variableDecl, "x", ["x"], 2⟩, ⟨.classDecl, "C", ["C"], 3⟩]

def hugeRaw : Text := "[18446744073709551616] 002-18446744073709551615x"

def hugeRuns : List Text := ["18446744073709551616", "002", "18446744073709551615"]

theorem oversized_refused_hugeRaw :
    let labels : List Text := ["a", "c", "b"]
    let selections : Selections := [("c", parse hugeRaw)]
    let largest := 18446744073709551615
    (∀ c ∈ hugeRaw, Text.isDecimal c = true → c.isDigit = true) ∧
    Text.MaximalRuns Text.isDecimal hugeRaw hugeRuns ∧ (parse hugeRaw).indices = [largest, 2, largest] ∧
    OversizedRefused "c" 2 hugeRuns (assign hugeElements labels selections)
      (assign hugeElements labels (("c", ⟨[2, largest], (parse hugeRaw).ignored⟩) :: selections)) := by
  intro labels selections largest
  have ascii : ∀ c ∈ hugeRaw, Text.isDecimal c = true → c.isDigit = true := by
    have checked : hugeRaw.all (fun c => !Text.isDecimal c || c.isDigit) = true := by decide +kernel
    intro c member
    simpa [Decidable.imp_iff_not_or] using List.all_eq_true.mp checked c member
  obtain ⟨runs, cut, indices, refused⟩ := oversized_refused hugeRaw ascii
  obtain rfl : hugeRuns = runs := by
    rw [← cut.runs_eq]
    decide +kernel
  have apart := refused hugeElements "a" ["c", "b"] selections "c" (by decide +kernel) (by decide) (by decide)
    (by decide +kernel)
  exact ⟨ascii, cut, indices.trans (by decide +kernel), apart⟩

end Assignment
end ScriptSplit
