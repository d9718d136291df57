import ScriptSplit.Yaml.Cursor
import ScriptSplit.Yaml.Token.Scalar

/-!
# YAML tokens

A text is cut into tokens from front to back. Indentation opens and closes block collections. Something that
may turn out to be a key is remembered until a colon confirms it; then the key's mark, and the start of a
mapping if there is none, are put in before it.
-/
namespace ScriptSplit.Yaml

inductive Token where
  | directive (directive : Directive)
  | documentStart
  | documentEnd
  | blockSequence
  | blockMapping
  | blockEnd
  | flowSequence
  | flowSequenceEnd
  | flowMapping
  | flowMappingEnd
  | blockEntry
  | flowEntry
  | key
  | value
  | alias (name : Text)
  | anchor (name : Text)
  | tag (handle suffix : Text)
  | scalar (text : Text) (plain : Bool)
  | textEnd
  deriving DecidableEq, Repr

namespace Token

structure Candidate where
  position : Nat
  required : Bool
  offset : Nat
  line : Nat
  column : Nat
  deriving Repr

structure State where
  cursor : Cursor
  tokens : List Token := []
  count : Nat := 0
  indent : Int := -1
  outer : List Int := []
  keyAllowed : Bool := true
  candidate : Option Candidate := none
  outerCandidates : List (Option Candidate) := []
  deriving Repr

namespace State

def inFlow (state : State) : Bool := !state.outerCandidates.isEmpty

def push (state : State) (token : Token) : State :=
  { state with tokens := token :: state.tokens, count := state.count + 1 }

def insert (state : State) (position : Nat) (token : Token) : State :=
  let later := state.count - position
  { state with
    tokens := state.tokens.take later ++ token :: state.tokens.drop later
    count := state.count + 1 }

def passGaps (state : State) : Nat → Option State
  | 0 => none
  | fuel + 1 =>
    let cursor := state.cursor
    let cursor := if cursor.column == 0 && cursor.at_ '\ufeff' then cursor.advance 1 else cursor
    let tabs := state.inFlow || !state.keyAllowed
    let (_, cursor) := cursor.passWhile fun c => c == ' ' || (tabs && c == '\t')
    let cursor := if cursor.at_ '#' then (cursor.passWhile fun c => !isBreak c).2 else cursor
    if cursor.sees isBreak then
      passGaps { state with cursor := cursor.passBreak.2, keyAllowed := state.keyAllowed || !state.inFlow } fuel
    else some { state with cursor }

/-- Whether a candidate is too far back: on another line, or more than 1024 bytes away. -/
def isStale (cursor : Cursor) (candidate : Candidate) : Bool :=
  candidate.line < cursor.line || candidate.offset + 1024 < cursor.offset

def giveUp? : Option Candidate → Option (Option Candidate)
  | some candidate => if candidate.required then none else some none
  | none => some none

def dropStale (state : State) : Option State := do
  let refresh (candidate : Option Candidate) : Option (Option Candidate) :=
    if candidate.any (isStale state.cursor) then giveUp? candidate else some candidate
  return { state with
    candidate := ← refresh state.candidate
    outerCandidates := ← state.outerCandidates.mapM refresh }

def dropCandidate (state : State) : Option State :=
  (giveUp? state.candidate).map fun candidate => { state with candidate }

def saveCandidate (state : State) : Option State :=
  if state.keyAllowed then do
    let state ← state.dropCandidate
    let cursor := state.cursor
    return { state with
      candidate := some {
        position := state.count
        required := !state.inFlow && state.indent == cursor.column
        offset := cursor.offset, line := cursor.line, column := cursor.column } }
  else some state

def openBlock (state : State) (column position : Nat) (token : Token) : State :=
  if !state.inFlow && state.indent < column then
    { state.insert position token with indent := column, outer := state.indent :: state.outer }
  else state

def closeBlocksWithin (column : Int) : List Int → State → State
  | [], state => state
  | outer :: rest, state =>
    if column < state.indent then
      closeBlocksWithin column rest { state.push .blockEnd with indent := outer, outer := rest }
    else state

def closeBlocks (state : State) (column : Int) : State :=
  if state.inFlow then state else closeBlocksWithin column state.outer state

def take (state : State) (length : Nat) (token : Token) (keyAllowed : Bool) : State :=
  { state.push token with cursor := state.cursor.advance length, keyAllowed }

def textEnd (state : State) : Option State :=
  ((state.closeBlocks (-1)).dropCandidate).map fun state =>
    { state.push .textEnd with keyAllowed := false }

def directive (state : State) : Option State := do
  let state ← (state.closeBlocks (-1)).dropCandidate
  let (directive, cursor) ← directive? (state.cursor.advance 1)
  return { state.push (.directive directive) with cursor, keyAllowed := false }

def documentMark (state : State) (token : Token) : Option State :=
  ((state.closeBlocks (-1)).dropCandidate).map (·.take 3 token false)

def flowStart (state : State) (token : Token) : Option State :=
  state.saveCandidate.map fun state =>
    { state with candidate := none, outerCandidates := state.candidate :: state.outerCandidates }.take
      1 token true

def flowEnd (state : State) (token : Token) : Option State :=
  state.dropCandidate.map fun state =>
    let state := match state.outerCandidates with
      | candidate :: rest => { state with candidate, outerCandidates := rest }
      | [] => state
    state.take 1 token false

def flowEntry (state : State) : Option State := state.dropCandidate.map (·.take 1 .flowEntry true)

def blockEntry (state : State) : Option State :=
  if !state.inFlow && !state.keyAllowed then none
  else
    (state.openBlock state.cursor.column state.count .blockSequence).dropCandidate.map
      (·.take 1 .blockEntry true)

def key (state : State) : Option State :=
  if !state.inFlow && !state.keyAllowed then none
  else
    (state.openBlock state.cursor.column state.count .blockMapping).dropCandidate.map fun state =>
      state.take 1 .key (!state.inFlow)

def value (state : State) : Option State :=
  match state.candidate with
  | some candidate =>
    let state := state.insert candidate.position .key
    let state := state.openBlock candidate.column candidate.position .blockMapping
    some ({ state with candidate := none }.take 1 .value false)
  | none =>
    if !state.inFlow && !state.keyAllowed then none
    else
      let state := state.openBlock state.cursor.column state.count .blockMapping
      some (state.take 1 .value (!state.inFlow))

def endsName (cursor : Cursor) : Bool :=
  cursor.wordEnds 0 || cursor.sees (("?:,]\x7d%@\x60".toList).elem ·)

def anchor (state : State) (token : Text → Token) : Option State := do
  let state ← state.saveCandidate
  let (name, cursor) := (state.cursor.advance 1).passWhile isNameChar
  if name.isEmpty || !endsName cursor then none
  return { state.push (token name) with cursor, keyAllowed := false }

def tag (state : State) : Option State := do
  let state ← state.saveCandidate
  let ((handle, suffix), cursor) ← tag? state.inFlow state.cursor
  return { state.push (.tag handle suffix) with cursor, keyAllowed := false }

def blockScalar (state : State) (folded : Bool) : Option State := do
  let state ← state.dropCandidate
  let (text, cursor) ← block? folded state.indent (state.cursor.advance 1)
  return { state.push (.scalar text false) with cursor, keyAllowed := true }

def quotedScalar (state : State) (single : Bool) : Option State := do
  let state ← state.saveCandidate
  let cursor := state.cursor.advance 1
  let (text, cursor) ← quoted? single (cursor.rest.length + 1) cursor
  return { state.push (.scalar text false) with cursor, keyAllowed := false }

def plainScalar (state : State) : Option State := do
  let state ← state.saveCandidate
  let fuel := state.cursor.rest.length + 1
  let (text, broken, cursor) ← plain? state.inFlow (state.indent + 1).toNat fuel {} state.cursor
  return { state.push (.scalar text true) with cursor, keyAllowed := broken }

def plainStarts (state : State) (c : Char) : Bool :=
  let next := state.cursor.ahead 1
  !(isWordEnd (some c) || ("-?:,[]\x7b\x7d#&*!|>'\"%@\x60".toList).elem c) ||
    (c == '-' && !next.any isBlank) ||
    (!state.inFlow && (c == '?' || c == ':') && !isWordEnd next)

def tokenAt (state : State) (c : Char) : Option State :=
  let cursor := state.cursor
  let flow := state.inFlow
  if cursor.column == 0 && c == '%' then state.directive
  else if cursor.atDocumentMark then
    state.documentMark (if c == '-' then .documentStart else .documentEnd)
  else if c == '[' then state.flowStart .flowSequence
  else if c == '{' then state.flowStart .flowMapping
  else if c == ']' then state.flowEnd .flowSequenceEnd
  else if c == '}' then state.flowEnd .flowMappingEnd
  else if c == ',' then state.flowEntry
  else if c == '-' && cursor.wordEnds 1 then state.blockEntry
  else if c == '?' && (flow || cursor.wordEnds 1) then state.key
  else if c == ':' && (flow || cursor.wordEnds 1) then state.value
  else if c == '*' then state.anchor .alias
  else if c == '&' then state.anchor .anchor
  else if c == '!' then state.tag
  else if c == '|' && !flow then state.blockScalar false
  else if c == '>' && !flow then state.blockScalar true
  else if c == '\'' then state.quotedScalar true
  else if c == '"' then state.quotedScalar false
  else if state.plainStarts c then state.plainScalar
  else none

def runWithin (state : State) : Nat → Option (List Token)
  | 0 => none
  | fuel + 1 => do
    let state ← state.passGaps (fuel + 1)
    let state ← state.dropStale
    let state := state.closeBlocks state.cursor.column
    match state.cursor.peek with
    | none => state.textEnd.map (·.tokens.reverse)
    | some c => (← state.tokenAt c).runWithin fuel

end State

def ofText? (text : Text) : Option (List Token) :=
  if text.all isReadable then
    ({ cursor := { rest := text } } : State).runWithin (text.length + 1)
  else none

end Token
end ScriptSplit.Yaml
