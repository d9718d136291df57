import ScriptSplit.Yaml.Cursor

namespace ScriptSplit.Yaml

structure Gap where
  blanks : Text := []
  broken : Bool := false
  first : Text := []
  later : Text := []
  deriving Repr

namespace Gap

def fold (gap : Gap) : Text :=
  if gap.broken then
    if gap.first.head? == some '\n' then if gap.later.isEmpty then [' '] else gap.later
    else gap.first ++ gap.later
  else gap.blanks

def pass (indent : Nat) : Nat → Gap → Cursor → Option (Gap × Cursor)
  | 0, _, _ => none
  | fuel + 1, gap, cursor =>
    match cursor.peek with
    | none => some (gap, cursor)
    | some c =>
      if isBlank c then
        if gap.broken && cursor.column < indent && c == '\t' then none
        else
          pass indent fuel (if gap.broken then gap else { gap with blanks := gap.blanks ++ [c] })
            (cursor.advance 1)
      else if isBreak c then
        let (read, cursor) := cursor.passBreak
        if gap.broken then pass indent fuel { gap with later := gap.later ++ read } cursor
        else pass indent fuel { gap with broken := true, first := read, blanks := [] } cursor
      else some (gap, cursor)

end Gap

def escaped? : Char → Option Char
  | '0' => some '\x00'
  | 'a' => some '\x07'
  | 'b' => some '\x08'
  | 't' => some '\t'
  | '\t' => some '\t'
  | 'n' => some '\n'
  | 'v' => some '\x0b'
  | 'f' => some '\x0c'
  | 'r' => some '\r'
  | 'e' => some '\x1b'
  | ' ' => some ' '
  | '"' => some '"'
  | '/' => some '/'
  | '\\' => some '\\'
  | 'N' => some '\x85'
  | '_' => some '\u00a0'
  | 'L' => some '\u2028'
  | 'P' => some '\u2029'
  | _ => none

def codeWidth? : Char → Option Nat
  | 'x' => some 2
  | 'u' => some 4
  | 'U' => some 8
  | _ => none

def escape? (rest : Text) : Option (Char × Nat) :=
  match rest with
  | [] => none
  | c :: rest =>
    match codeWidth? c with
    | some width => do
      if rest.length < width then none
      let c ← Text.char? (← Text.hexNumber? (rest.take width))
      return (c, width + 1)
    | none => (escaped? c).map (·, 1)

/-- Passes the characters of a quoted scalar up to a blank, a line end or the closing quote. The last part
of the result says that an escaped line end stands there, which is passed too. -/
def quotedWord (single : Bool) : Nat → Cursor → Option (Text × Cursor × Bool)
  | 0, _ => none
  | fuel + 1, cursor =>
    match cursor.rest with
    | [] => some ([], cursor, false)
    | c :: rest =>
      if isBlank c || isBreak c then some ([], cursor, false)
      else if single && c == '\'' then
        if rest.head? == some '\'' then
          (quotedWord single fuel (cursor.advance 2)).map fun (later, rest) => ('\'' :: later, rest)
        else some ([], cursor, false)
      else if !single && c == '"' then some ([], cursor, false)
      else if !single && c == '\\' then
        if rest.head?.any isBreak then some ([], (cursor.advance 1).passBreak.2, true)
        else do
          let (c, taken) ← escape? rest
          let (later, rest) ← quotedWord single fuel (cursor.advance (taken + 1))
          return (c :: later, rest)
      else (quotedWord single fuel (cursor.advance 1)).map fun (later, rest) => (c :: later, rest)

def quoted? (single : Bool) : Nat → Cursor → Option (Text × Cursor)
  | 0, _ => none
  | fuel + 1, cursor => do
    if cursor.atDocumentMark || cursor.rest.isEmpty then none
    let (word, cursor, broken) ← quotedWord single (cursor.rest.length + 1) cursor
    if cursor.at_ (if single then '\'' else '"') then return (word, cursor.advance 1)
    let (gap, cursor) ← Gap.pass 0 (cursor.rest.length + 1) { broken } cursor
    let (later, cursor) ← quoted? single fuel cursor
    return (word ++ gap.fold ++ later, cursor)

def isFlowIndicator (c : Char) : Bool := c == ',' || c == '[' || c == ']' || c == '{' || c == '}'

def plainWord (flow : Bool) : Nat → Cursor → Option (Text × Cursor)
  | 0, _ => none
  | fuel + 1, cursor =>
    match cursor.peek with
    | none => some ([], cursor)
    | some c =>
      if cursor.wordEnds 0 then some ([], cursor)
      else if flow && c == ':' && (cursor.ahead 1).any fun next => isFlowIndicator next || next == '?' then none
      else if (c == ':' && cursor.wordEnds 1) || (flow && isFlowIndicator c) then some ([], cursor)
      else (plainWord flow fuel (cursor.advance 1)).map fun (later, cursor) => (c :: later, cursor)

def plain? (flow : Bool) (indent : Nat) : Nat → Gap → Cursor → Option (Text × Bool × Cursor)
  | 0, _, _ => none
  | fuel + 1, gap, cursor => do
    if cursor.atDocumentMark || cursor.at_ '#' then return ([], gap.broken, cursor)
    let (word, cursor) ← plainWord flow (cursor.rest.length + 1) cursor
    if word.isEmpty then return ([], gap.broken, cursor)
    let read := gap.fold ++ word
    if !cursor.sees fun c => isBlank c || isBreak c then return (read, false, cursor)
    let (gap, cursor) ← Gap.pass indent (cursor.rest.length + 1) {} cursor
    if !flow && cursor.column < indent then return (read, gap.broken, cursor)
    let (later, broken, cursor) ← plain? flow indent fuel gap cursor
    return (read ++ later, broken, cursor)

inductive Chomping where
  | strip
  | clip
  | keep
  deriving DecidableEq, Repr

def chomping? (cursor : Cursor) : Option (Chomping × Cursor) :=
  if cursor.at_ '+' then some (.keep, cursor.advance 1)
  else if cursor.at_ '-' then some (.strip, cursor.advance 1)
  else none

def increment? (cursor : Cursor) : Option (Option Nat × Cursor) :=
  match cursor.peek with
  | some c =>
    if c == '0' then none
    else if c.isDigit then some (some (c.toNat - '0'.toNat), cursor.advance 1)
    else some (none, cursor)
  | none => some (none, cursor)

def blockMarks? (cursor : Cursor) : Option (Chomping × Option Nat × Cursor) := do
  match chomping? cursor with
  | some (chomping, cursor) =>
    let (increment, cursor) ← increment? cursor
    return (chomping, increment, cursor)
  | none =>
    let (increment, cursor) ← increment? cursor
    match increment, chomping? cursor with
    | some _, some (chomping, cursor) => return (chomping, increment, cursor)
    | _, _ => return (.clip, increment, cursor)

def blockBreaks (indent : Option Nat) : Nat → Nat → Cursor → Option (Text × Nat × Cursor)
  | 0, _, _ => none
  | fuel + 1, widest, cursor =>
    let spaces := (cursor.rest.takeWhile (· == ' ')).length
    let cursor := cursor.advance (match indent with
      | some indent => min spaces (indent - cursor.column)
      | none => spaces)
    let widest := max widest cursor.column
    let short := (indent.map fun indent => decide (cursor.column < indent)).getD true
    if short && cursor.at_ '\t' then none
    else if cursor.sees isBreak then
      let (read, cursor) := cursor.passBreak
      (blockBreaks indent fuel widest cursor).map fun (later, rest) => (read ++ later, rest)
    else some ([], widest, cursor)

/-- The lines of a block. `first` is the line end before the line here, `later` the line ends after that,
and `leading` whether the line before started with a blank. The result has the text, and the line ends left
over. -/
def blockLines (folded : Bool) (indent : Nat) :
    Nat → (first later : Text) → (leading : Bool) → Cursor → Option (Text × Text × Text × Cursor)
  | 0, _, _, _, _ => none
  | fuel + 1, first, later, leading, cursor =>
    if cursor.column != indent || cursor.rest.isEmpty then some ([], first, later, cursor)
    else do
      let blank := cursor.sees isBlank
      let gap : Text :=
        if folded && first.head? == some '\n' && !leading && !blank then
          (if later.isEmpty then [' '] else []) ++ later
        else first ++ later
      let (line, cursor) := cursor.passWhile fun c => !isBreak c
      let (first, cursor) := cursor.passBreak
      let (later, _, cursor) ← blockBreaks (some indent) (cursor.rest.length + 1) 0 cursor
      let (text, rest) ← blockLines folded indent fuel first later blank cursor
      return (gap ++ line ++ text, rest)

def block? (folded : Bool) (outer : Int) (cursor : Cursor) : Option (Text × Cursor) := do
  let (chomping, increment, cursor) ← blockMarks? cursor
  let cursor := cursor.passComment
  if !cursor.lineEnds then none
  let cursor := cursor.passBreak.2
  let stated := increment.map fun increment => outer.toNat + increment
  let (later, widest, cursor) ← blockBreaks stated (cursor.rest.length + 1) 0 cursor
  let indent := stated.getD (max widest (max (outer + 1).toNat 1))
  let (text, first, later, cursor) ← blockLines folded indent (cursor.rest.length + 1) [] later false cursor
  let tail : Text := match chomping with
    | .strip => []
    | .clip => first
    | .keep => first ++ later
  return (text ++ tail, cursor)

end ScriptSplit.Yaml
