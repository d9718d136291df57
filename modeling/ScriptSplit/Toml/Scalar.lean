import ScriptSplit.Record.Basic
import ScriptSplit.Text.Basic
import ScriptSplit.Toml.Lexical

namespace ScriptSplit.Toml

def grouped? (p : Char → Bool) : Text → Option (Text × Text)
  | [] => none
  | c :: rest =>
    if !p c then none
    else match rest with
      | '_' :: after =>
        match grouped? p after with
        | some (digits, rest) => some (c :: digits, rest)
        | none => some ([c], '_' :: after)
      | rest =>
        match grouped? p rest with
        | some (digits, rest) => some (c :: digits, rest)
        | none => some ([c], rest)

def sign : Text → Text × Text
  | '+' :: rest => (['+'], rest)
  | '-' :: rest => (['-'], rest)
  | rest => ([], rest)

def whole? (text : Text) : Option (Text × Text) :=
  match text with
  | '0' :: rest => some (['0'], rest)
  | text => grouped? Char.isDigit text

def marked? (text : Text) : Option (Nat × Text) :=
  let digits (base : Nat) (rest : Text) : Option (Nat × Text) :=
    (grouped? (fun c => (Text.hexDigit? c).any (· < base)) rest).map fun (digits, rest) =>
      (digits.foldl (fun n c => base * n + (Text.hexDigit? c).getD 0) 0, rest)
  match text with
  | '0' :: 'x' :: rest => digits 16 rest
  | '0' :: 'o' :: rest => digits 8 rest
  | '0' :: 'b' :: rest => digits 2 rest
  | _ => none

def integer? (text : Text) : Option (Value × Text) :=
  match text with
  | '0' :: 'x' :: _ | '0' :: 'o' :: _ | '0' :: 'b' :: _ => do
    let (n, rest) ← marked? text
    if n < Nat.pow 2 63 then return (.int n, rest) else none
  | text => do
    let (sign, rest) := sign text
    let (digits, rest) ← whole? rest
    let n := Text.number digits
    if sign == ['-'] then if n ≤ Nat.pow 2 63 then return (.int (-(n : Int)), rest) else none
    else if n < Nat.pow 2 63 then return (.int n, rest) else none

def fraction? (text : Text) : Option (Text × Text) :=
  match text with
  | '.' :: rest => (grouped? Char.isDigit rest).map fun (digits, rest) => ('.' :: digits, rest)
  | _ => none

def exponent? (text : Text) : Option (Text × Text) :=
  match text with
  | e :: rest =>
    if e == 'e' || e == 'E' then
      let (sign, rest) := sign rest
      (grouped? Char.isDigit rest).map fun (digits, rest) => (e :: sign ++ digits, rest)
    else none
  | [] => none

def word? (word text : Text) : Option (Value × Text) :=
  (text.after? word).map fun rest => (.foreign word, rest)

/-- A float; one above the range of double precision is refused. `none` outside says that no float stands
here, `none` inside that a refused one does. -/
def float? (text : Text) : Option (Option (Value × Text)) :=
  let (sign, unsigned) := sign text
  let special := (word? "inf" unsigned <|> word? "nan" unsigned).map some
  match whole? unsigned with
  | none => special
  | some (digits, rest) =>
    let tail : Option (Text × Text) :=
      match fraction? rest with
      | some (fraction, rest) =>
        match exponent? rest with
        | some (exponent, rest) => some (fraction ++ exponent, rest)
        | none => some (fraction, rest)
      | none => exponent? rest
    match tail with
    | none => special
    | some (tail, rest) =>
      let literal := digits ++ tail
      if sign != ['-'] && !(Text.decimal? literal).any Text.Decimal.isFinite then some none
      else some (some (.foreign (sign ++ literal), rest))

def field? (width low high : Nat) (text : Text) : Option (Nat × Text) :=
  let digits := text.take width
  let n := Text.number digits
  if digits.length = width ∧ digits.all Char.isDigit ∧ low ≤ n ∧ n ≤ high then some (n, text.drop width)
  else none

def expect? (c : Char) : Text → Option Text
  | d :: rest => if c == d then some rest else none
  | [] => none

def daysIn (year month : Nat) : Nat :=
  if month = 2 then
    if year % 4 = 0 ∧ (year % 100 ≠ 0 ∨ year % 400 = 0) then 29 else 28
  else if month = 4 ∨ month = 6 ∨ month = 9 ∨ month = 11 then 30
  else 31

def monthAndDay? (year : Nat) (text : Text) : Option Text := do
  let (month, rest) ← field? 2 1 12 text
  let (_, rest) ← field? 2 1 (daysIn year month) (← expect? '-' rest)
  return rest

def minutes? (text : Text) : Option Text := do
  let (_, rest) ← field? 2 0 59 text
  let (_, rest) ← field? 2 0 60 (← expect? ':' rest)
  match rest with
  | '.' :: after =>
    if (after.takeWhile Char.isDigit).isEmpty then return rest else return after.dropWhile Char.isDigit
  | rest => return rest

def offset? (text : Text) : Option Text :=
  match text with
  | c :: rest =>
    if c == 'Z' || c == 'z' then some rest
    else if c == '+' || c == '-' then do
      let (_, rest) ← field? 2 0 23 rest
      let (_, rest) ← field? 2 0 59 (← expect? ':' rest)
      return rest
    else some text
  | [] => some []

def dateTime? (text : Text) : Option (Option (Value × Text)) :=
  match field? 4 0 9999 text with
  | some (year, '-' :: rest) =>
    match monthAndDay? year rest with
    | none => some none
    | some rest =>
      let timed : Option (Option Text) :=
        match rest with
        | c :: after =>
          if c == 'T' || c == 't' || c == ' ' then
            match field? 2 0 23 after with
            | some (_, ':' :: after) => some ((minutes? after).bind offset?)
            | _ => none
          else none
        | [] => none
      match timed with
      | none => some (some (.foreign "date", rest))
      | some rest => some (rest.map fun rest => (.foreign "date", rest))
  | _ =>
    match field? 2 0 23 text with
    | some (_, ':' :: rest) => some ((minutes? rest).map fun rest => (.foreign "time", rest))
    | _ => none

def numeric? (text : Text) : Option (Value × Text) :=
  match dateTime? text with
  | some result => result
  | none =>
    match float? text with
    | some result => result
    | none => integer? text

end ScriptSplit.Toml
