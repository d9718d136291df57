/-!
# Texts

A text is the list of its characters, so every reader and printer of the library is a function on lists.
This module holds the cutting and joining that the rest is built from: lines, pieces between separators,
and the part before a keyword.
-/
namespace ScriptSplit

abbrev Text := List Char

instance : Coe String Text := ⟨String.toList⟩

namespace Text

def cut (text key : Text) : Option (Text × Text) :=
  match text with
  | [] => if key.isEmpty then some ([], []) else none
  | c :: rest =>
    if key.isPrefixOf (c :: rest) then some ([], (c :: rest).drop key.length)
    else (cut rest key).map fun (first, last) => (c :: first, last)

def contains (text key : Text) : Bool := (text.cut key).isSome

def before (text key : Text) : Text :=
  match text.cut key with
  | some (first, _) => first
  | none => text

def after? (text key : Text) : Option Text :=
  if key.isPrefixOf text then some (text.drop key.length) else none

def stripWhere (text : Text) (p : Char → Bool) : Text :=
  ((text.dropWhile p).reverse.dropWhile p).reverse

def runs (text : Text) (p : Char → Bool) : List Text :=
  (text.splitOnP (fun c => !p c)).filter (fun run => !run.isEmpty)

def precedes : Text → Text → Bool
  | [], _ => true
  | _ :: _, [] => false
  | c :: rest, d :: other => if c = d then precedes rest other else c.toNat < d.toNat

def byteCount (text : Text) : Nat := text.foldl (fun count c => count + c.utf8Size) 0

def lines : Text → List Text
  | [] => []
  | c :: rest =>
    if c = '\n' then [] :: lines rest
    else match lines rest with
      | [] => [[c]]
      | line :: later => (c :: line) :: later

/-- The lines of a text where a carriage return before a line feed belongs to the end of the line. -/
def bareLines : Text → List Text
  | [] => []
  | '\n' :: rest => [] :: bareLines rest
  | '\r' :: '\n' :: rest => [] :: bareLines rest
  | c :: rest =>
    match bareLines rest with
    | [] => [[c]]
    | line :: later => (c :: line) :: later

def line (text : Text) : Text := text ++ ['\n']

def unlines (lines : List Text) : Text := List.intercalate ['\n'] lines

def numeral (n : Nat) : Text := Nat.toDigits 10 n

def integer : Int → Text
  | .ofNat n => numeral n
  | .negSucc n => '-' :: numeral (n + 1)

def number (digits : Text) : Nat := Nat.ofDigitChars 10 digits 0

/-! ## Blank characters -/

def isBlank (c : Char) : Bool :=
  let n := c.toNat
  (0x9 ≤ n && n ≤ 0xD) || n == 0x20 || n == 0x85 || n == 0xA0 || n == 0x1680 ||
    (0x2000 ≤ n && n ≤ 0x200A) || n == 0x2028 || n == 0x2029 || n == 0x202F || n == 0x205F || n == 0x3000

def trim (text : Text) : Text := text.stripWhere isBlank

/-! ## Decimal digits -/

def digitZeros : List Nat :=
  [0x30, 0x660, 0x6F0, 0x7C0, 0x966, 0x9E6, 0xA66, 0xAE6, 0xB66, 0xBE6, 0xC66, 0xCE6, 0xD66, 0xDE6, 0xE50,
   0xED0, 0xF20, 0x1040, 0x1090, 0x17E0, 0x1810, 0x1946, 0x19D0, 0x1A80, 0x1A90, 0x1B50, 0x1BB0, 0x1C40,
   0x1C50, 0xA620, 0xA8D0, 0xA900, 0xA9D0, 0xA9F0, 0xAA50, 0xABF0, 0xFF10, 0x104A0, 0x10D30, 0x10D40,
   0x11066, 0x110F0, 0x11136, 0x111D0, 0x112F0, 0x11450, 0x114D0, 0x11650, 0x116C0, 0x116D0, 0x116DA,
   0x11730, 0x118E0, 0x11950, 0x11BF0, 0x11C50, 0x11D50, 0x11DA0, 0x11F50, 0x16130, 0x16A60, 0x16AC0,
   0x16B50, 0x16D70, 0x1CCF0, 0x1D7CE, 0x1D7D8, 0x1D7E2, 0x1D7EC, 0x1D7F6, 0x1E140, 0x1E2F0, 0x1E4F0,
   0x1E5F1, 0x1E950, 0x1FBF0]

/-- Whether a character is a decimal digit of some script. -/
def isDecimal (c : Char) : Bool := digitZeros.any fun base => base ≤ c.toNat && c.toNat < base + 10

theorem isDecimal_of_isDigit {c : Char} (h : c.isDigit) : isDecimal c := by
  have bounds : 48 ≤ c.toNat ∧ c.toNat ≤ 57 := by
    simp only [Char.isDigit, Bool.and_eq_true, decide_eq_true_eq, ge_iff_le, UInt32.le_iff_toNat_le] at h
    exact h
  have covered : (48 ≤ c.toNat && c.toNat < 48 + 10) = true := by simp; omega
  exact List.any_eq_true.mpr ⟨48, List.mem_cons_self, covered⟩

/-! ## Hexadecimal numerals and character codes -/

def hexDigit? (c : Char) : Option Nat :=
  if c.isDigit then some (c.toNat - '0'.toNat)
  else if 'a' ≤ c ∧ c ≤ 'f' then some (c.toNat - 'a'.toNat + 10)
  else if 'A' ≤ c ∧ c ≤ 'F' then some (c.toNat - 'A'.toNat + 10)
  else none

def hexNumber? (digits : Text) : Option Nat :=
  (digits.mapM hexDigit?).map fun values => values.foldl (fun n d => 16 * n + d) 0

def hexNumeral (digits : Text) : Nat → Nat → Text
  | 0, _ => []
  | width + 1, n => hexNumeral digits width (n / 16) ++ [digits.getD (n % 16) '0']

def smallHex : Text := "0123456789abcdef"

def capitalHex : Text := "0123456789ABCDEF"

def char? (code : Nat) : Option Char := if code.isValidChar then some (Char.ofNat code) else none

/-! ## Decimal fractions and the range of double precision -/

/-- Digits, and how many places the decimal point stands to their right; to their left for a negative count. -/
structure Decimal where
  digits : Text
  shift : Int
  deriving Repr

def exponent? (text : Text) : Option Int :=
  match text with
  | [] => some 0
  | e :: rest =>
    if e == 'e' || e == 'E' then
      let (sign, digits) : Int × Text := match rest with
        | '-' :: digits => (-1, digits)
        | '+' :: digits => (1, digits)
        | digits => (1, digits)
      if digits.isEmpty || !digits.all Char.isDigit then none else some (sign * number digits)
    else none

def decimal? (text : Text) : Option Decimal :=
  let whole := text.takeWhile Char.isDigit
  let (fraction, rest) : Text × Text := match text.dropWhile Char.isDigit with
    | '.' :: rest => (rest.takeWhile Char.isDigit, rest.dropWhile Char.isDigit)
    | rest => ([], rest)
  if whole.isEmpty && fraction.isEmpty then none
  else (exponent? rest).map fun exponent => ⟨whole ++ fraction, exponent - fraction.length⟩

def doubleBound : Nat := Nat.pow 2 1024 - Nat.pow 2 970

def Decimal.isFinite (decimal : Decimal) : Bool :=
  let digits := decimal.digits.dropWhile (· == '0')
  let places := digits.length + decimal.shift
  if digits.isEmpty || places ≤ 300 then true
  else if 310 < places then false
  else if 0 ≤ decimal.shift then number digits * Nat.pow 10 decimal.shift.toNat < doubleBound
  else number digits < doubleBound * Nat.pow 10 (-decimal.shift).toNat

end Text
end ScriptSplit
