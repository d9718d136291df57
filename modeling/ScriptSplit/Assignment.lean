import ScriptSplit.Element
import ScriptSplit.Host
import ScriptSplit.Text.Basic

namespace ScriptSplit

structure Selection where
  indices : List Nat := []
  ignored : List Text := []
  deriving DecidableEq, Repr

namespace Selection

/-- The largest index; a number that is too large for an index is read as this one, which no list reaches. -/
def maxIndex : Nat := 0xFFFFFFFFFFFFFFFF

def index (run : Text) : Nat :=
  if run.all Char.isDigit then min run.number maxIndex else maxIndex

def words (raw : Text) : List Text :=
  ((raw.splitOnP fun c => c == ',' || Text.isBlank c).map
    (Text.stripWhere · fun c => c == '[' || c == ']')).filter fun word => !word.isEmpty

/-- Reads a selection: every longest run of digits is an index, and every word without one of the digits
0 to 9 is ignored. -/
def parse (raw : Text) : Selection :=
  { indices := (raw.runs Text.isDecimal).map index
    ignored := (words raw).filter fun word => !word.any Char.isDigit }

def isEmpty (selection : Selection) : Bool := selection.indices.isEmpty && selection.ignored.isEmpty

def append (first second : Selection) : Selection :=
  ⟨first.indices ++ second.indices, first.ignored ++ second.ignored⟩

end Selection

abbrev Selections := List (Text × Selection)

namespace Selections

def add (table : Selections) (label : Text) (selection : Selection) : Selections :=
  match table with
  | [] => [(label, selection)]
  | (known, present) :: rest =>
    if known = label then (known, present.append selection) :: rest
    else (known, present) :: add rest label selection

def parse (raws : List (Text × Text)) : Selections :=
  raws.foldl (fun table (label, raw) => table.add label (Selection.parse raw)) []

end Selections

/-! ## Assignment -/

structure Group where
  label : Text
  isDefault : Bool
  elements : List Element := []
  deriving DecidableEq, Repr

inductive Reason where
  | outOfRange (max : Nat)
  | alreadyClaimed (owner : Text)
  | noNumbers
  deriving DecidableEq, Repr

def Reason.message : Reason → Text
  | .outOfRange max => "out of range (1-" ++ Text.numeral max ++ [')']
  | .alreadyClaimed owner => "already assigned to " ++ owner
  | .noNumbers => "no valid numbers found"

structure Issue where
  destination : Text
  index : Option Nat := none
  reason : Reason
  deriving DecidableEq, Repr

inductive Warning where
  | emptyDestination (label : Text)
  | duplicateDestination (label : Text)
  deriving DecidableEq, Repr

def Warning.message : Warning → Text
  | .emptyDestination label => "No content assigned to " ++ label
  | .duplicateDestination label => "Destination " ++ label ++ " listed more than once"

structure Assignment where
  groups : List Group := []
  issues : List Issue := []
  warnings : List Warning := []
  deriving DecidableEq, Repr

namespace Group

def movable (group : Group) : List Element := Element.movable group.elements

def shared (group : Group) : List Element := Element.shared group.elements

end Group

namespace Assignment

def default? (assignment : Assignment) : Option Group := assignment.groups.find? (·.isDefault)

def group? (assignment : Assignment) (label : Text) : Option Group :=
  assignment.groups.find? (·.label = label)

inductive Request where
  | number (label : Text) (index : Nat)
  | wordsOnly (label : Text)
  deriving DecidableEq, Repr

inductive Ruling where
  | granted (label : Text) (index : Nat)
  | repeated (label : Text) (index : Nat)
  | refused (issue : Issue)
  deriving DecidableEq, Repr

abbrev Grants := List (Nat × Text)

def Ruling.grant? : Ruling → Option (Nat × Text)
  | .granted label index => some (index, label)
  | _ => none

def Ruling.issue? : Ruling → Option Issue
  | .refused issue => some issue
  | _ => none

def rule (count : Nat) (grants : Grants) : Request → Ruling
  | .wordsOnly label => .refused ⟨label, none, .noNumbers⟩
  | .number label index =>
    if index = 0 ∨ count < index then .refused ⟨label, some index, .outOfRange count⟩
    else match grants.lookup index with
      | none => .granted label index
      | some owner =>
        if owner = label then .repeated label index
        else .refused ⟨label, some index, .alreadyClaimed owner⟩

def hear (count : Nat) (grants : Grants) : List Request → List Ruling
  | [] => []
  | request :: rest =>
    let ruling := rule count grants request
    ruling :: hear count (grants ++ ruling.grant?.toList) rest

def requestsOf (label : Text) (selection : Selection) : List Request :=
  if selection.indices.isEmpty then
    if selection.ignored.isEmpty then [] else [.wordsOnly label]
  else selection.indices.map (.number label)

def others (destinations : List Text) : List Text := destinations.eraseDups.tail

/-- All requests, destination by destination. The default and labels that are no destination ask for
nothing. -/
def requests (destinations : List Text) (selections : Selections) : List Request :=
  (others destinations).flatMap fun label => ((selections.lookup label).map (requestsOf label)).getD []

def rulings (elements : List Element) (destinations : List Text) (selections : Selections) : List Ruling :=
  hear (Element.movable elements).length [] (requests destinations selections)

def repetitions (seen : List Text) : List Text → List Text
  | [] => []
  | label :: rest =>
    if label ∈ seen then label :: repetitions seen rest else repetitions (label :: seen) rest

def grantedTo (movable : List Element) (grants : Grants) (label : Text) : List Element :=
  grants.filterMap fun (index, owner) => if owner = label then movable[index - 1]? else none

def ungranted (movable : List Element) (grants : Grants) : List Element :=
  (movable.zipIdx 1).filterMap fun (element, index) =>
    if (grants.lookup index).isSome then none else some element

def groupsOf (elements : List Element) (destinations : List Text) (grants : Grants) : List Group :=
  let shared := Element.shared elements
  let movable := Element.movable elements
  match destinations.eraseDups with
  | [] => []
  | first :: rest =>
    ⟨first, true, shared ++ ungranted movable grants⟩ ::
      rest.map fun label => ⟨label, false, shared ++ grantedTo movable grants label⟩

end Assignment

def assign (elements : List Element) (destinations : List Text) (selections : Selections) : Assignment :=
  let rulings := Assignment.rulings elements destinations selections
  { groups := Assignment.groupsOf elements destinations (rulings.filterMap (·.grant?))
    issues := rulings.filterMap (·.issue?)
    warnings := (Assignment.repetitions [] destinations).map .duplicateDestination }

namespace Assignment

def Ruling.log : Ruling → List Log.Entry
  | .granted label index =>
    [⟨.debug, "added element", [("destination", label), ("index", Text.numeral index)]⟩]
  | .repeated _ _ => []
  | .refused issue =>
    let fields : List (Text × Text) :=
      ("destination", issue.destination) :: (issue.index.toList.map fun index => ("index", Text.numeral index))
    match issue.reason with
    | .noNumbers => [⟨.warn, "no valid numbers found", fields⟩]
    | .outOfRange _ => [⟨.warn, "element is out of range", fields⟩]
    | .alreadyClaimed owner => [⟨.warn, "element already assigned", fields ++ [(("owner" : Text), owner)]⟩]

def log (elements : List Element) (destinations : List Text) (selections : Selections) : List Log.Entry :=
  let rulings := rulings elements destinations selections
  let grants := rulings.filterMap (·.grant?)
  let dropped := (repetitions [] destinations).map fun label =>
    ⟨.warn, "duplicate destination dropped", [("label", label)]⟩
  let kept := destinations.head?.toList.flatMap fun label =>
    ((List.range' 1 (Element.movable elements).length).filter fun index => (grants.lookup index).isNone).map
      fun index => ⟨.debug, "added element to default", [("destination", label), ("index", Text.numeral index)]⟩
  dropped ++ rulings.flatMap Ruling.log ++ kept

end Assignment
end ScriptSplit

/-! ## The text of a group -/

namespace ScriptSplit.Group

def fileLines (group : Group) : List Text :=
  let imports := group.elements.filter Element.isImport
  let others := group.elements.filter fun element => !element.isImport
  imports.flatMap Element.lines ++ (if imports.isEmpty then [] else [[]]) ++
    others.flatMap fun element => element.lines ++ [[]]

def text? (group : Group) : Option Text :=
  if group.elements.isEmpty then none else some (Text.unlines group.fileLines)

end ScriptSplit.Group
