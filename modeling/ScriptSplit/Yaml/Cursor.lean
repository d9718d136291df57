import ScriptSplit.Yaml.Scalar

namespace ScriptSplit.Yaml

structure Cursor where
  rest : Text
  offset : Nat := 0
  line : Nat := 0
  column : Nat := 0
  deriving Repr

def isReadable (c : Char) : Bool :=
  let n := c.toNat
  n == 0x9 || n == 0xA || n == 0xD || (0x20 ≤ n && n ≤ 0x7E) || n == 0x85 || (0xA0 ≤ n && n ≤ 0xD7FF) ||
    (0xE000 ≤ n && n ≤ 0xFFFD) || 0x10000 ≤ n

def isBlank (c : Char) : Bool := c == ' ' || c == '\t'

def isNameChar (c : Char) : Bool := c.isAlphanum || c == '_' || c == '-'

namespace Cursor

def peek (cursor : Cursor) : Option Char := cursor.rest.head?

def ahead (cursor : Cursor) (n : Nat) : Option Char := cursor.rest[n]?

def at_ (cursor : Cursor) (c : Char) : Bool := cursor.peek == some c

def sees (cursor : Cursor) (p : Char → Bool) : Bool := cursor.peek.any p

def startsWith (cursor : Cursor) (word : Text) : Bool := word.isPrefixOf cursor.rest

def wordEnds (cursor : Cursor) (n : Nat) : Bool := isWordEnd (cursor.ahead n)

def lineEnds (cursor : Cursor) : Bool := (cursor.peek.map isBreak).getD true

def advance (cursor : Cursor) (n : Nat) : Cursor :=
  { cursor with
    rest := cursor.rest.drop n
    offset := cursor.offset + Text.byteCount (cursor.rest.take n)
    column := cursor.column + n }

def passWhile (cursor : Cursor) (p : Char → Bool) : Text × Cursor :=
  let passed := cursor.rest.takeWhile p
  (passed, cursor.advance passed.length)

def passBreak (cursor : Cursor) : Text × Cursor :=
  let next (bytes : Nat) (rest : Text) : Cursor := ⟨rest, cursor.offset + bytes, cursor.line + 1, 0⟩
  match cursor.rest with
  | '\r' :: '\n' :: rest => (['\n'], next 2 rest)
  | c :: rest =>
    if isBreak c then (if c == '\u2028' || c == '\u2029' then [c] else ['\n'], next c.utf8Size rest)
    else ([], cursor)
  | [] => ([], cursor)

def atDocumentMark (cursor : Cursor) : Bool :=
  cursor.column == 0 && (cursor.startsWith "---" || cursor.startsWith "...") && cursor.wordEnds 3

def passComment (cursor : Cursor) : Cursor :=
  let cursor := (cursor.passWhile isBlank).2
  if cursor.at_ '#' then (cursor.passWhile fun c => !isBreak c).2 else cursor

end Cursor

/-! ## Reading YAML tags and directives -/

def isAddressChar (bracketed : Bool) (c : Char) : Bool :=
  isNameChar c || (";/?:@&=+$.%!~*'()".toList).elem c || (bracketed && (c == ',' || c == '[' || c == ']'))

def percent? (cursor : Cursor) : Option (Nat × Cursor) :=
  match cursor.rest with
  | '%' :: high :: low :: _ => (Text.hexNumber? [high, low]).map (·, cursor.advance 3)
  | _ => none

def widthOf? (byte : Nat) : Option Nat :=
  if byte < 0x80 then some 1
  else if byte / 0x20 = 6 then some 2
  else if byte / 0x10 = 14 then some 3
  else if byte / 0x08 = 30 then some 4
  else none

def trailing? : Nat → Nat → Cursor → Option (Nat × Cursor)
  | 0, code, cursor => some (code, cursor)
  | count + 1, code, cursor => do
    let (byte, cursor) ← percent? cursor
    if byte / 0x40 = 2 then trailing? count (code * 0x40 + byte % 0x40) cursor else none

/-- A character written as its bytes. Bytes that are not the shortest form of a character stand for the
replacement character. -/
def percentChar? (cursor : Cursor) : Option (Char × Cursor) := do
  let (byte, cursor) ← percent? cursor
  let width ← widthOf? byte
  let leading := if width = 1 then byte else byte % Nat.pow 2 (7 - width)
  let (code, cursor) ← trailing? (width - 1) leading cursor
  return (((Text.char? code).filter (·.utf8Size = width)).getD '\ufffd', cursor)

def addressWithin (bracketed : Bool) : Nat → Cursor → Option (Text × Cursor)
  | 0, _ => none
  | fuel + 1, cursor =>
    match cursor.peek with
    | none => some ([], cursor)
    | some c =>
      if !isAddressChar bracketed c then some ([], cursor)
      else do
        let (c, cursor) ← if c == '%' then percentChar? cursor else some (c, cursor.advance 1)
        let (later, cursor) ← addressWithin bracketed fuel cursor
        return (c :: later, cursor)

/-- The address of a tag. A character with code zero ends it; what is written after that does not count. -/
def address? (bracketed : Bool) (cursor : Cursor) : Option (Text × Cursor) :=
  (addressWithin bracketed (cursor.rest.length + 1) cursor).map fun (address, cursor) =>
    (address.takeWhile (· != '\x00'), cursor)

def someAddress? (bracketed : Bool) (cursor : Cursor) : Option (Text × Cursor) :=
  if cursor.sees (isAddressChar bracketed) then address? bracketed cursor else none

def handle? (cursor : Cursor) : Option (Text × Cursor) :=
  if cursor.at_ '!' then
    let (name, cursor) := (cursor.advance 1).passWhile isNameChar
    if cursor.at_ '!' then some ('!' :: name ++ ['!'], cursor.advance 1) else some ('!' :: name, cursor)
  else none

def tag? (flow : Bool) (cursor : Cursor) : Option ((Text × Text) × Cursor) := do
  let (tag, cursor) ←
    if cursor.ahead 1 == some '<' then do
      let (address, cursor) ← someAddress? true (cursor.advance 2)
      if cursor.at_ '>' then some ((([] : Text), address), cursor.advance 1) else none
    else do
      let (handle, cursor) ← handle? cursor
      if 1 < handle.length ∧ handle.getLast? = some '!' then
        let (suffix, cursor) ← someAddress? false cursor
        some ((handle, suffix), cursor)
      else
        let (address, cursor) ← address? false cursor
        match handle.drop 1 ++ address with
        | [] => some (([], ['!']), cursor)
        | suffix => some ((['!'], suffix), cursor)
  if cursor.wordEnds 0 || (flow && cursor.at_ ',') then return (tag, cursor) else none

inductive Directive where
  | version (major minor : Nat)
  | handle (handle start : Text)
  deriving DecidableEq, Repr

def versionNumber? (cursor : Cursor) : Option (Nat × Cursor) :=
  let (digits, cursor) := cursor.passWhile Char.isDigit
  if digits.isEmpty || 9 < digits.length then none else some (digits.number, cursor)

def passBlanks (cursor : Cursor) : Cursor := (cursor.passWhile isBlank).2

def directiveBody? (name : Text) (cursor : Cursor) : Option (Directive × Cursor) :=
  if name = "YAML".toList then do
    let (major, cursor) ← versionNumber? (passBlanks cursor)
    if !cursor.at_ '.' then none
    let (minor, cursor) ← versionNumber? (cursor.advance 1)
    return (.version major minor, cursor)
  else if name = "TAG".toList then do
    let (handle, cursor) ← handle? (passBlanks cursor)
    if 1 < handle.length ∧ handle.getLast? ≠ some '!' then none
    if !cursor.sees isBlank then none
    let (start, cursor) ← someAddress? true (passBlanks cursor)
    if cursor.wordEnds 0 then return (.handle handle start, cursor) else none
  else none

def directive? (cursor : Cursor) : Option (Directive × Cursor) := do
  let (name, cursor) := cursor.passWhile isNameChar
  if name.isEmpty || !cursor.wordEnds 0 then none
  let (directive, cursor) ← directiveBody? name cursor
  let cursor := cursor.passComment
  if cursor.lineEnds then return (directive, cursor.passBreak.2) else none

end ScriptSplit.Yaml
