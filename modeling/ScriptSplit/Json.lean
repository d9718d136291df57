import ScriptSplit.Record.Basic
import ScriptSplit.Text.Basic

namespace ScriptSplit.Json

def escape (c : Char) : Text :=
  match c with
  | '"' => "\\\""
  | '\\' => "\\\\"
  | '\n' => "\\n"
  | '\r' => "\\r"
  | '\t' => "\\t"
  | '\x08' => "\\b"
  | '\x0c' => "\\f"
  | c => if c.toNat < 0x20 then "\\u" ++ Text.hexNumeral Text.smallHex 4 c.toNat else [c]

def quote (text : Text) : Text := '"' :: text.flatMap escape ++ ['"']

def newline (level : Nat) : Text := '\n' :: List.replicate (2 * level) ' '

mutual

def layout (level : Nat) : Value → Text
  | .null => "null"
  | .bool true => "true"
  | .bool false => "false"
  | .int value => Text.integer value
  | .text value => quote value
  | .foreign literal => literal
  | .list items => '[' :: layoutItems level true items ++ [']']
  | .record fields => '{' :: layoutFields level true fields ++ ['}']

def layoutItems (level : Nat) (first : Bool) : List Value → Text
  | [] => if first then [] else newline level
  | item :: rest =>
    (if first then [] else [',']) ++ newline (level + 1) ++ layout (level + 1) item ++
      layoutItems level false rest

def layoutFields (level : Nat) (first : Bool) : List (Text × Value) → Text
  | [] => if first then [] else newline level
  | (key, value) :: rest =>
    (if first then [] else [',']) ++ newline (level + 1) ++ quote key ++ ": " ++ layout (level + 1) value ++
      layoutFields level false rest

end

def print (value : Value) : Text := layout 0 value

/-! ## Reading JSON -/

def skipSpace (text : Text) : Text :=
  text.dropWhile fun c => c == ' ' || c == '\t' || c == '\n' || c == '\r'

inductive CodeUnit where
  | char (c : Char)
  | code (n : Nat)
  deriving Repr

def escaped? : Char → Option Char
  | '"' => some '"'
  | '\\' => some '\\'
  | '/' => some '/'
  | 'b' => some '\x08'
  | 'f' => some '\x0c'
  | 'n' => some '\n'
  | 'r' => some '\r'
  | 't' => some '\t'
  | _ => none

def units : Text → Option (List CodeUnit × Text)
  | [] => none
  | '"' :: rest => some ([], rest)
  | '\\' :: 'u' :: a :: b :: c :: d :: rest => do
    let code ← Text.hexNumber? [a, b, c, d]
    let (later, rest) ← units rest
    return (.code code :: later, rest)
  | '\\' :: c :: rest => do
    let c ← escaped? c
    let (later, rest) ← units rest
    return (.char c :: later, rest)
  | c :: rest => do
    if c.toNat < 0x20 || c == '\\' then none
    let (later, rest) ← units rest
    return (.char c :: later, rest)

def isHigh (code : Nat) : Bool := 0xD800 ≤ code && code < 0xDC00

def isLow (code : Nat) : Bool := 0xDC00 ≤ code && code < 0xE000

def assemble : List CodeUnit → Option Text
  | [] => some []
  | .char c :: rest => (assemble rest).map (c :: ·)
  | .code high :: .code low :: rest =>
    if isHigh high then
      if isLow low then
        (assemble rest).map (Char.ofNat (0x10000 + (high - 0xD800) * 0x400 + (low - 0xDC00)) :: ·)
      else none
    else if isLow high then none
    else (assemble (.code low :: rest)).map (Char.ofNat high :: ·)
  | .code code :: rest =>
    if isHigh code || isLow code then none else (assemble rest).map (Char.ofNat code :: ·)

def digits? (text : Text) : Option (Text × Text) :=
  match text.takeWhile Char.isDigit with
  | [] => none
  | digits => some (digits, text.dropWhile Char.isDigit)

def fraction (text : Text) : Option (Text × Text) :=
  match text with
  | '.' :: rest => (digits? rest).map fun (digits, rest) => ('.' :: digits, rest)
  | text => some ([], text)

def exponent (text : Text) : Option (Text × Text) :=
  match text with
  | e :: rest =>
    if e == 'e' || e == 'E' then
      match rest with
      | '+' :: rest => (digits? rest).map fun (digits, rest) => (e :: '+' :: digits, rest)
      | '-' :: rest => (digits? rest).map fun (digits, rest) => (e :: '-' :: digits, rest)
      | rest => (digits? rest).map fun (digits, rest) => (e :: digits, rest)
    else some ([], e :: rest)
  | [] => some ([], [])

def whole? (text : Text) : Option (Text × Text) := do
  let (digits, rest) ← digits? text
  if digits.head? = some '0' ∧ 1 < digits.length then none
  return (digits, rest)

def unsigned (negative : Bool) (text : Text) : Option (Value × Text) := do
  let (digits, rest) ← whole? text
  let (fraction, rest) ← fraction rest
  let (exponent, rest) ← exponent rest
  let n := digits.number
  let sign : Text := if negative then ['-'] else []
  if fraction.isEmpty && exponent.isEmpty && !(negative && n == 0) then
    return (.int (if negative then -(n : Int) else n), rest)
  return (.foreign (sign ++ digits ++ fraction ++ exponent), rest)

def number (text : Text) : Option (Value × Text) :=
  match text with
  | '-' :: rest => unsigned true rest
  | text => unsigned false text

mutual

def value (fuel : Nat) (text : Text) : Option (Value × Text) :=
  match fuel with
  | 0 => none
  | fuel + 1 =>
    match skipSpace text with
    | '"' :: rest => do
      let (units, rest) ← units rest
      match assemble units with
      | some text => return (.text text, rest)
      | none => return (.foreign [], rest)
    | '[' :: rest =>
      match skipSpace rest with
      | ']' :: rest => some (.list [], rest)
      | rest => (items fuel rest).map fun (items, rest) => (.list items, rest)
    | '{' :: rest =>
      match skipSpace rest with
      | '}' :: rest => some (.record [], rest)
      | rest => do
        let (fields, rest) ← fields fuel rest
        match fields.mapM fun (key, value) => key.map (·, value) with
        | some fields => return (.record fields, rest)
        | none => return (.foreign [], rest)
    | text =>
      match text.after? "null" with
      | some rest => some (.null, rest)
      | none =>
        match text.after? "true" with
        | some rest => some (.bool true, rest)
        | none =>
          match text.after? "false" with
          | some rest => some (.bool false, rest)
          | none => number text

def items (fuel : Nat) (text : Text) : Option (List Value × Text) :=
  match fuel with
  | 0 => none
  | fuel + 1 => do
    let (item, rest) ← value fuel text
    match skipSpace rest with
    | ']' :: rest => return ([item], rest)
    | ',' :: rest =>
      let (later, rest) ← items fuel rest
      return (item :: later, rest)
    | _ => none

def fields (fuel : Nat) (text : Text) : Option (List (Option Text × Value) × Text) :=
  match fuel with
  | 0 => none
  | fuel + 1 =>
    match skipSpace text with
    | '"' :: rest => do
      let (units, rest) ← units rest
      match skipSpace rest with
      | ':' :: rest =>
        let (value, rest) ← value fuel rest
        match skipSpace rest with
        | '}' :: rest => return ([(assemble units, value)], rest)
        | ',' :: rest =>
          let (later, rest) ← fields fuel rest
          return ((assemble units, value) :: later, rest)
        | _ => none
      | _ => none
    | _ => none

end

def read (text : Text) : Option Value := do
  let (value, rest) ← value (2 * text.length + 2) text
  if (skipSpace rest).isEmpty then return value else none

end ScriptSplit.Json
