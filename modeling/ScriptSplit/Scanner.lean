import ScriptSplit.Element
import ScriptSplit.Host

/-!
# The scanner

The scanner groups the lines of a script into elements. It counts curly brackets and follows block comments
with one flag; brackets inside quoted text count like any other.

* `Scanner.feed` takes one line, `Scanner.finish` ends the input.
* `scan` is both over all the lines of a text.
-/
namespace ScriptSplit

structure Scanner where
  depth : Int := 0
  inComment : Bool := false
  current : Option Element := none
  elements : List Element := []
  lineNumber : Nat := 0
  deriving DecidableEq, Repr

namespace Scanner

def balance (line : Text) : Int := (line.count '{' : Int) - line.count '}'

def append (scanner : Scanner) (line : Text) : Scanner :=
  { scanner with current := scanner.current.map (·.push line) }

def start (scanner : Scanner) (line : Text) : Scanner :=
  match Element.opening? line.trim with
  | none => scanner
  | some (kind, name) =>
    let element : Element := ⟨kind, name, [line], scanner.lineNumber⟩
    if kind.isMovable then { scanner with current := some element }
    else { scanner with elements := scanner.elements ++ [element] }

/-- A line of code, outside every comment. The open element is finished by the line that brings a positive
depth back to zero; with none open, only a line that begins at depth zero may declare something. -/
def feedCode (scanner : Scanner) (line : Text) : Scanner :=
  let after := scanner.depth + balance line
  match scanner.current with
  | some element =>
    if after = 0 ∧ 0 < scanner.depth then
      { scanner with depth := after, current := none, elements := scanner.elements ++ [element.push line] }
    else { scanner with depth := after, current := some (element.push line) }
  | none =>
    if scanner.depth = 0 then { scanner with depth := after }.start line else { scanner with depth := after }

/-- Takes the next line. On a line with both comment marks the closing one wins, and no line with a mark
or inside a comment counts as code. -/
def feed (scanner : Scanner) (line : Text) : Scanner :=
  let scanner := { scanner with lineNumber := scanner.lineNumber + 1 }
  if line.contains "*/" then { scanner with inComment := false }.append line
  else if line.contains "/*" || scanner.inComment then { scanner with inComment := true }.append line
  else scanner.feedCode line

def feedAll (scanner : Scanner) (lines : List Text) : Scanner := lines.foldl feed scanner

def finish (scanner : Scanner) : List Element := scanner.elements ++ scanner.current.toList

def feedLog (scanner : Scanner) (line : Text) : List Log.Entry :=
  let next := scanner.feed line
  match scanner.current, next.current with
  | none, some element =>
    let found : Text := if element.kind = .classDecl then "found class" else "found function"
    [⟨.debug, found, [("name", element.name), ("line", Text.numeral next.lineNumber)]⟩]
  | some _, none =>
    next.elements.getLast?.toList.map fun element =>
      ⟨.debug, "completed element",
        [("kind", '"' :: element.kind.word ++ ['"']), ("name", element.name),
         ("line", Text.numeral next.lineNumber)]⟩
  | _, _ => []

def finishLog (scanner : Scanner) : List Log.Entry :=
  (scanner.current.toList.map fun element =>
    ⟨.debug, "flushing unterminated element",
      [("kind", '"' :: element.kind.word ++ ['"']), ("name", element.name),
       ("depth", Text.integer scanner.depth)]⟩) ++
  [⟨.debug, "scan finished",
    [("lines", Text.numeral scanner.lineNumber), ("elements", Text.numeral scanner.finish.length)]⟩]

def log (scanner : Scanner) : List Text → List Log.Entry
  | [] => scanner.finishLog
  | line :: rest => scanner.feedLog line ++ (scanner.feed line).log rest

end Scanner

def scan (source : Text) : List Element := (Scanner.feedAll {} source.lines).finish

end ScriptSplit
