import ScriptSplit.Yaml.Token.Basic

namespace ScriptSplit.Yaml

inductive Node where
  | scalar (anchor : Option Nat) (tag : Option Text) (text : Text) (plain : Bool)
  | alias (anchor : Nat)
  | sequence (anchor : Option Nat) (items : List Node)
  | mapping (anchor : Option Nat) (entries : List (Node × Node))
  deriving Repr

namespace Node

structure State where
  tokens : List Token
  handles : List (Text × Text)
  anchors : List (Text × Nat) := []
  deriving Repr

abbrev Reader := StateT State Option

def peek : Reader Token := do (← get).tokens.head?

def pass : Reader PUnit := modify fun state => { state with tokens := state.tokens.drop 1 }

def passIf (token : Token) : Reader Bool := do
  if (← peek) = token then
    pass
    return true
  else return false

def define (name : Text) : Reader Nat := do
  let anchors := (← get).anchors
  let number := anchors.length
  modify fun state => { state with anchors := (name, number) :: anchors.filter fun known => known.1 ≠ name }
  return number

def named (name : Text) : Reader Node := do
  return .alias (← (← get).anchors.lookup name)

def resolveTag (handle suffix : Text) : Reader Text := do
  if handle.isEmpty then return suffix else return (← (← get).handles.lookup handle) ++ suffix

def properties : Reader (Option Text × Option Text) := do
  match ← peek with
  | .anchor name =>
    pass
    match ← peek with
    | .tag handle suffix =>
      pass
      return (some name, some (← resolveTag handle suffix))
    | _ => return (some name, none)
  | .tag handle suffix =>
    pass
    let tag ← resolveTag handle suffix
    match ← peek with
    | .anchor name =>
      pass
      return (some name, some tag)
    | _ => return (none, some tag)
  | _ => return (none, none)

def absent : Node := .scalar none none [] true

def endsBlockPart : Token → Bool
  | .key | .value | .blockEnd => true
  | _ => false

def endsFlowItem : Token → Bool
  | .flowEntry | .flowSequenceEnd => true
  | _ => false

def endsFlowPart : Token → Bool
  | .flowEntry | .flowMappingEnd => true
  | _ => false

mutual

def node (fuel : Nat) (block indentless : Bool) : Reader Node := do
  match fuel with
  | 0 => failure
  | fuel + 1 =>
    if let .alias name ← peek then
      pass
      return ← named name
    let (name, tag) ← properties
    let anchor ← match name with
      | some name => some <$> define name
      | none => pure none
    let emptyNode : Reader Node :=
      if name.isSome || tag.isSome then return .scalar anchor tag [] true else failure
    match ← peek with
    | .blockEntry => if indentless then return .sequence anchor (← indentlessItems fuel) else emptyNode
    | .scalar text plain =>
      pass
      return .scalar anchor tag text plain
    | .flowSequence =>
      pass
      return .sequence anchor (← flowItems fuel true)
    | .flowMapping =>
      pass
      return .mapping anchor (← flowParts fuel true)
    | .blockSequence =>
      if block then
        pass
        return .sequence anchor (← blockItems fuel)
      else emptyNode
    | .blockMapping =>
      if block then
        pass
        return .mapping anchor (← blockParts fuel)
      else emptyNode
    | _ => emptyNode

def nodeUnless (fuel : Nat) (ends : Token → Bool) (block indentless : Bool) : Reader Node := do
  match fuel with
  | 0 => failure
  | fuel + 1 => if ends (← peek) then return absent else node fuel block indentless

def blockItems (fuel : Nat) : Reader (List Node) := do
  match fuel with
  | 0 => failure
  | fuel + 1 =>
    match ← peek with
    | .blockEntry =>
      pass
      let item ← nodeUnless fuel (fun token => token = .blockEntry || token = .blockEnd) true false
      return item :: (← blockItems fuel)
    | .blockEnd =>
      pass
      return []
    | _ => failure

def indentlessItems (fuel : Nat) : Reader (List Node) := do
  match fuel with
  | 0 => failure
  | fuel + 1 =>
    if ← passIf .blockEntry then
      let item ← nodeUnless fuel (fun token => token = .blockEntry || endsBlockPart token) true false
      return item :: (← indentlessItems fuel)
    else return []

def blockParts (fuel : Nat) : Reader (List (Node × Node)) := do
  match fuel with
  | 0 => failure
  | fuel + 1 =>
    match ← peek with
    | .key =>
      pass
      let key ← nodeUnless fuel endsBlockPart true true
      let value ← if ← passIf .value then nodeUnless fuel endsBlockPart true true else pure absent
      return (key, value) :: (← blockParts fuel)
    | .blockEnd =>
      pass
      return []
    | _ => failure

/-- The items of a flow sequence, to its end. A key makes a mapping of one entry; where the key is left out
the token in its place is passed over. -/
def flowItems (fuel : Nat) (first : Bool) : Reader (List Node) := do
  match fuel with
  | 0 => failure
  | fuel + 1 =>
    if ← passIf .flowSequenceEnd then return []
    if !first then
      if !(← passIf .flowEntry) then failure
    if ← passIf .flowSequenceEnd then return []
    let item ← if ← passIf .key then do
        let next ← peek
        let key ← if next = .value || endsFlowItem next then do
            pass
            pure absent
          else node fuel false false
        let value ← if ← passIf .value then nodeUnless fuel endsFlowItem false false else pure absent
        pure (.mapping none [(key, value)])
      else node fuel false false
    return item :: (← flowItems fuel false)

def flowParts (fuel : Nat) (first : Bool) : Reader (List (Node × Node)) := do
  match fuel with
  | 0 => failure
  | fuel + 1 =>
    if ← passIf .flowMappingEnd then return []
    if !first then
      if !(← passIf .flowEntry) then failure
    if ← passIf .flowMappingEnd then return []
    let entry ← if ← passIf .key then do
        let key ← nodeUnless fuel (fun token => token = .value || endsFlowPart token) false false
        let value ← if ← passIf .value then nodeUnless fuel endsFlowPart false false else pure absent
        pure (key, value)
      else do
        pure (← node fuel false false, absent)
    return entry :: (← flowParts fuel false)

end

mutual

def anchored : Node → List (Nat × Node)
  | .scalar anchor tag text plain => anchor.toList.map (·, .scalar anchor tag text plain)
  | .alias _ => []
  | .sequence anchor items => anchor.toList.map (·, .sequence anchor items) ++ anchoredItems items
  | .mapping anchor entries => anchor.toList.map (·, .mapping anchor entries) ++ anchoredParts entries

def anchoredItems : List Node → List (Nat × Node)
  | [] => []
  | item :: rest => anchored item ++ anchoredItems rest

def anchoredParts : List (Node × Node) → List (Nat × Node)
  | [] => []
  | (key, value) :: rest => anchored key ++ anchored value ++ anchoredParts rest

end

mutual

def size : Node → Nat
  | .scalar _ _ _ _ | .alias _ => 1
  | .sequence _ items => sizeOfItems items + 2
  | .mapping _ entries => sizeOfParts entries + 2

def sizeOfItems : List Node → Nat
  | [] => 0
  | item :: rest => size item + sizeOfItems rest

def sizeOfParts : List (Node × Node) → Nat
  | [] => 0
  | (key, value) :: rest => size key + size value + sizeOfParts rest

end

end Node
end ScriptSplit.Yaml
