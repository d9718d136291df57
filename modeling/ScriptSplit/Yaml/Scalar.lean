import ScriptSplit.Text.Basic

namespace ScriptSplit.Yaml

def isBreak (c : Char) : Bool := c == '\n' || c == '\r' || c == '\x85' || c == '\u2028' || c == '\u2029'

def isSpecial (c : Char) : Bool :=
  let n := c.toNat
  !(c == '\n' || (0x20 ≤ n && n ≤ 0x7E) || (0xA0 ≤ n && n ≤ 0xD7FF) ||
    (0xE000 ≤ n && n ≤ 0xFFFD && n != 0xFEFF) || 0x10000 ≤ n)

def isWordEnd : Option Char → Bool
  | none => true
  | some c => c == ' ' || c == '\t' || c == '\x00' || isBreak c

def anyNeighbours (p : Char → Char → Bool) (text : Text) : Bool :=
  (text.zip text.tail).any fun (first, second) => p first second

def isNumeral (base : Nat) (digits : Text) : Bool :=
  !digits.isEmpty && digits.all fun c => (Text.hexDigit? c).any (· < base)

def magnitude (base : Nat) (digits : Text) : Nat :=
  digits.foldl (fun n c => base * n + (Text.hexDigit? c).getD 0) 0

def baseAndDigits : Text → Nat × Text
  | '0' :: 'x' :: digits => (16, digits)
  | '0' :: 'o' :: digits => (8, digits)
  | '0' :: 'b' :: digits => (2, digits)
  | digits => (10, digits)

def readsAsInteger (text : Text) : Bool :=
  let (negative, unsigned) : Bool × Text := match text with
    | '-' :: rest => (true, rest)
    | '+' :: rest => (false, rest)
    | rest => (false, rest)
  let (base, digits) := baseAndDigits unsigned
  isNumeral base digits && magnitude base digits ≤ (if negative then Nat.pow 2 127 else Nat.pow 2 128 - 1)

def withoutSign : Text → Text
  | '-' :: rest | '+' :: rest => rest
  | rest => rest

def readsAsFloat (text : Text) : Bool :=
  [".inf", ".Inf", ".INF"].contains (String.ofList (withoutSign text)) ||
    [".nan", ".NaN", ".NAN"].contains (String.ofList text) ||
    (Text.decimal? (withoutSign text)).any Text.Decimal.isFinite

def isZeroLed (text : Text) : Bool :=
  match withoutSign text with
  | '0' :: digits => isNumeral 10 digits
  | _ => false

def readsAsOther (text : Text) : Bool :=
  text.isEmpty || ["null", "Null", "NULL", "~"].contains (String.ofList text) ||
    ["true", "True", "TRUE", "false", "False", "FALSE"].contains (String.ofList text) ||
    readsAsInteger text || isZeroLed text || readsAsFloat text

inductive Style where
  | plain
  | singleQuoted
  | doubleQuoted
  | literal
  deriving DecidableEq, Repr

def indicators : Text := "#,[]\x7b\x7d&*!|>'\"%@\x60"

def startsAsIndicator (text : Text) : Bool :=
  text.take 3 == "---" || text.take 3 == "..." ||
    match text with
    | [] => false
    | c :: rest => indicators.elem c || ((c == '-' || c == '?' || c == ':') && isWordEnd rest.head?)

def holdsIndicator (text : Text) : Bool :=
  anyNeighbours (fun c next => (c == ':' && isWordEnd (some next)) || (next == '#' && isWordEnd (some c))) text ||
    text.getLast? == some ':'

def plainAllowed (text : Text) : Bool :=
  !startsAsIndicator text && !holdsIndicator text && text.head? != some ' ' && text.getLast? != some ' ' &&
    !text.any isBreak && !text.any isSpecial

def singleQuotedAllowed (text : Text) : Bool :=
  !text.any isSpecial &&
    !anyNeighbours (fun c next => (c == ' ' && isBreak next) || (isBreak c && next == ' ')) text

def literalAllowed (text : Text) : Bool :=
  !text.any isSpecial && text.getLast? != some ' ' && !anyNeighbours (fun c next => c == ' ' && isBreak next) text

def style (text : Text) : Style :=
  if text.contains ['\n'] then
    if literalAllowed text then .literal else .doubleQuoted
  else if !readsAsOther text && plainAllowed text then .plain
  else if singleQuotedAllowed text then .singleQuoted
  else .doubleQuoted

def indentation (column : Nat) : Text := List.replicate column ' '

def singleQuotedBody (column : Nat) (afterBreak : Bool) : Text → Text
  | [] => if afterBreak then indentation column else []
  | c :: rest =>
    if isBreak c then c :: singleQuotedBody column true rest
    else
      (if afterBreak then indentation column else []) ++ (if c == '\'' then ['\'', '\''] else [c]) ++
        singleQuotedBody column false rest

def escape (c : Char) : Text :=
  let hex (mark : Char) (width : Nat) : Text := '\\' :: mark :: Text.hexNumeral Text.capitalHex width c.toNat
  match c with
  | '\x00' => "\\0"
  | '\x07' => "\\a"
  | '\x08' => "\\b"
  | '\t' => "\\t"
  | '\n' => "\\n"
  | '\x0b' => "\\v"
  | '\x0c' => "\\f"
  | '\r' => "\\r"
  | '\x1b' => "\\e"
  | '"' => "\\\""
  | '\\' => "\\\\"
  | '\x85' => "\\N"
  | '\u00a0' => "\\_"
  | '\u2028' => "\\L"
  | '\u2029' => "\\P"
  | c => if c.toNat ≤ 0xFF then hex 'x' 2 else hex 'u' 4

def doubleQuotedBody (text : Text) : Text :=
  text.flatMap fun c => if isSpecial c || isBreak c || c == '"' || c == '\\' then escape c else [c]

def literalHeader (text : Text) : Text :=
  let stated := text.head?.any fun c => c == ' ' || isBreak c
  let chomping : Text := match text.reverse with
    | [] => ['-']
    | last :: others =>
      if !isBreak last then ['-']
      else match others with
        | [] => ['+']
        | previous :: _ => if isBreak previous then ['+'] else []
  '|' :: (if stated then ['2'] else []) ++ chomping

def literalBody (column : Nat) (afterBreak : Bool) : Text → Text
  | [] => []
  | c :: rest =>
    if isBreak c then c :: literalBody column true rest
    else (if afterBreak then indentation column else []) ++ c :: literalBody column false rest

def scalar (column : Nat) (text : Text) : Text :=
  match style text with
  | .plain => text
  | .singleQuoted => '\'' :: singleQuotedBody column false text ++ ['\'']
  | .doubleQuoted => '"' :: doubleQuotedBody text ++ ['"']
  | .literal => literalHeader text ++ '\n' :: literalBody column true text

end ScriptSplit.Yaml
