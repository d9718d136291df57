import ScriptSplit.Text.Basic

namespace ScriptSplit.Toml

def isSpace (c : Char) : Bool := c == ' ' || c == '\t'

def skipSpace (text : Text) : Text := text.dropWhile isSpace

def isPrintable (c : Char) : Bool := c == '\t' || (0x20 ≤ c.toNat && c.toNat != 0x7F)

def newline? : Text → Option Text
  | '\n' :: rest => some rest
  | '\r' :: '\n' :: rest => some rest
  | _ => none

def skipComment : Text → Text
  | '#' :: rest => rest.dropWhile isPrintable
  | text => text

def endLine? (text : Text) : Option Text :=
  match skipComment (skipSpace text) with
  | [] => some []
  | rest => newline? rest

def skipLinesWithin : Nat → Text → Option Text
  | 0, _ => none
  | fuel + 1, text =>
    match skipSpace text with
    | '#' :: rest => (newline? (rest.dropWhile isPrintable)).bind (skipLinesWithin fuel)
    | '\n' :: rest => skipLinesWithin fuel rest
    | '\r' :: '\n' :: rest => skipLinesWithin fuel rest
    | rest => some rest

def skipLines (text : Text) : Option Text := skipLinesWithin (text.length + 1) text

def escaped? : Text → Option (Char × Text)
  | 'b' :: rest => some ('\x08', rest)
  | 't' :: rest => some ('\t', rest)
  | 'n' :: rest => some ('\n', rest)
  | 'f' :: rest => some ('\x0c', rest)
  | 'r' :: rest => some ('\r', rest)
  | '"' :: rest => some ('"', rest)
  | '\\' :: rest => some ('\\', rest)
  | 'u' :: rest => code 4 rest
  | 'U' :: rest => code 8 rest
  | _ => none
where
  code (width : Nat) (rest : Text) : Option (Char × Text) := do
    if rest.length < width then none
    let c ← Text.char? (← Text.hexNumber? (rest.take width))
    return (c, rest.drop width)

def basicWithin : Nat → Text → Option (Text × Text)
  | 0, _ => none
  | fuel + 1, text =>
    match text with
    | '"' :: rest => some ([], rest)
    | '\\' :: rest => do
      let (c, rest) ← escaped? rest
      let (later, rest) ← basicWithin fuel rest
      return (c :: later, rest)
    | c :: rest => do
      if !isPrintable c then none
      let (later, rest) ← basicWithin fuel rest
      return (c :: later, rest)
    | [] => none

def literal (text : Text) : Option (Text × Text) :=
  match text.dropWhile fun c => isPrintable c && c != '\'' with
  | '\'' :: rest => some (text.takeWhile fun c => isPrintable c && c != '\'', rest)
  | _ => none

def dropNewline (text : Text) : Text := (newline? text).getD text

def skipBlankLines : Text → Text
  | [] => []
  | '\n' :: rest => skipBlankLines rest
  | '\r' :: '\n' :: rest => skipBlankLines rest
  | c :: rest => if isSpace c then skipBlankLines rest else c :: rest

def continued? (text : Text) : Option Text := (newline? (skipSpace text)).map skipBlankLines

/-- A string of several lines, after its opening quotes. `quote` is the kind of quote, and `escapes` says
whether backslashes count. Up to two quotes may stand anywhere, also right before the closing three. -/
def linesWithin (quote : Char) (escapes : Bool) : Nat → Text → Option (Text × Text)
  | 0, _ => none
  | fuel + 1, text =>
    let quotes := text.takeWhile (· == quote)
    if 3 ≤ quotes.length then
      if quotes.length ≤ 5 then some (quotes.drop 3, text.drop quotes.length) else none
    else match text with
    | [] => none
    | '\\' :: rest =>
      if escapes then
        match continued? rest with
        | some rest => linesWithin quote escapes fuel rest
        | none => do
          let (c, rest) ← escaped? rest
          let (later, rest) ← linesWithin quote escapes fuel rest
          return (c :: later, rest)
      else (linesWithin quote escapes fuel rest).map fun (later, rest) => ('\\' :: later, rest)
    | c :: rest => do
      match newline? (c :: rest) with
      | some rest =>
        let (later, rest) ← linesWithin quote escapes fuel rest
        return ('\n' :: later, rest)
      | none =>
        if !isPrintable c then none
        let (later, rest) ← linesWithin quote escapes fuel rest
        return (c :: later, rest)

def string? (text : Text) : Option (Text × Text) :=
  let fuel := text.length + 1
  match text with
  | '"' :: '"' :: '"' :: rest => linesWithin '"' true fuel (dropNewline rest)
  | '"' :: rest => basicWithin fuel rest
  | '\'' :: '\'' :: '\'' :: rest => linesWithin '\'' false fuel (dropNewline rest)
  | '\'' :: rest => literal rest
  | _ => none

def isBare (c : Char) : Bool := c.isAlphanum || c == '-' || c == '_'

def simpleKey? (text : Text) : Option (Text × Text) :=
  match text with
  | '"' :: rest => basicWithin (text.length + 1) rest
  | '\'' :: rest => literal rest
  | text =>
    match text.takeWhile isBare with
    | [] => none
    | key => some (key, text.dropWhile isBare)

def keyWithin : Nat → Text → Option (List Text × Text)
  | 0, _ => none
  | limit + 1, text => do
    let (part, rest) ← simpleKey? (skipSpace text)
    match skipSpace rest with
    | '.' :: rest =>
      let (parts, rest) ← keyWithin limit rest
      return (part :: parts, rest)
    | rest => return ([part], rest)

def depthLimit : Nat := 80

def key? (text : Text) : Option (List Text × Text) := keyWithin (depthLimit - 1) text

end ScriptSplit.Toml
