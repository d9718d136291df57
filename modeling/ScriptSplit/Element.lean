import ScriptSplit.Text.Basic

/-!
# Elements

An element is one top-level declaration of a script together with the source lines it occupies. Functions
and classes are movable: each ends up in one file. Imports and variables are shared: every file gets them.
-/
namespace ScriptSplit

inductive Kind where
  | importDecl
  | variableDecl
  | functionDecl
  | classDecl
  deriving DecidableEq, Repr

namespace Kind

def word : Kind → Text
  | importDecl => "import"
  | variableDecl => "variable"
  | functionDecl => "function"
  | classDecl => "class"

def isMovable : Kind → Bool
  | functionDecl | classDecl => true
  | importDecl | variableDecl => false

end Kind

structure Element where
  kind : Kind
  name : Text
  lines : List Text
  startLine : Nat
  deriving DecidableEq, Repr

namespace Element

def push (element : Element) (line : Text) : Element :=
  { element with lines := element.lines ++ [line] }

def lineCount (element : Element) : Nat := element.lines.length

def endLine (element : Element) : Nat := element.startLine + (element.lines.length - 1)

def isMovable (element : Element) : Bool := element.kind.isMovable

def isImport (element : Element) : Bool := element.kind == .importDecl

def movable (elements : List Element) : List Element := elements.filter isMovable

def shared (elements : List Element) : List Element := elements.filter fun element => !element.isMovable

end Element

structure Stats where
  total : Nat := 0
  importCount : Nat := 0
  variableCount : Nat := 0
  functionCount : Nat := 0
  classCount : Nat := 0
  coveredLines : Nat := 0
  deriving DecidableEq, Repr

namespace Stats

def ofElements (elements : List Element) : Stats :=
  let count (kind : Kind) := elements.countP (·.kind == kind)
  { total := elements.length
    importCount := count .importDecl
    variableCount := count .variableDecl
    functionCount := count .functionDecl
    classCount := count .classDecl
    coveredLines := (elements.flatMap Element.lines).length }

def movable (stats : Stats) : Nat := stats.functionCount + stats.classCount

end Stats

/-! ## Declared names -/

namespace Text

def nonBlank? (text : Text) : Option Text :=
  if text.trim.isEmpty then none else some text.trim

end Text

namespace Element

def functionName? (line : Text) : Option Text :=
  (line.cut "function ").bind fun (_, rest) => Text.nonBlank? (rest.takeWhile (· ≠ '('))

def className? (line : Text) : Option Text :=
  (line.after? "class ").bind fun rest =>
    Text.nonBlank? (Text.before (rest.takeWhile (· ≠ '{')) "extends")

def variableKeywords : List Text := ["let ", "const ", "var "]

/-- The name after the first keyword present, up to an equals sign or a semicolon. A later keyword is not
tried when the first one present yields no name. -/
def variableName? (line : Text) : Option Text :=
  (variableKeywords.findSome? fun keyword => line.cut keyword).bind fun (_, rest) =>
    Text.nonBlank? ((rest.takeWhile (· ≠ '=')).takeWhile (· ≠ ';'))

def importName? (line : Text) : Option Text :=
  (line.after? "import ").map fun _ => line

def opening? (line : Text) : Option (Kind × Text) :=
  if line.isEmpty || (line.after? "//").isSome then none
  else
    (functionName? line).map (Kind.functionDecl, ·)
      <|> (className? line).map (Kind.classDecl, ·)
      <|> (importName? line).map (Kind.importDecl, ·)
      <|> (variableName? line).map (Kind.variableDecl, ·)

end Element
end ScriptSplit
