import ScriptSplit.Yaml.Node

namespace ScriptSplit.Yaml

structure Document where
  root : Node
  anchored : List (Nat × Node)
  deriving Repr

namespace Document

def defaultHandles : List (Text × Text) := [("!", "!"), ("!!", "tag:yaml.org,2002:")]

def accepts (directives : List Directive) : Bool :=
  let versions := directives.filterMap fun
    | .version major minor => some (major, minor)
    | .handle _ _ => none
  let handles := directives.filterMap fun
    | .version _ _ => none
    | .handle handle _ => some handle
  versions.length ≤ 1 && (versions.all fun version => version == (1, 1) || version == (1, 2)) &&
    handles.eraseDups == handles

def handles (directives : List Directive) : List (Text × Text) :=
  directives.filterMap fun
    | .version _ _ => none
    | .handle handle start => some (handle, start)

def directive? : Token → Option Directive
  | .directive directive => some directive
  | _ => none

def endsDocument : Token → Bool
  | .directive _ | .documentStart | .documentEnd | .textEnd => true
  | _ => false

def root? (directives : List Directive) (explicit : Bool) (tokens : List Token) : Option (Node × List Token) := do
  let fuel := 4 * (tokens.length + 1)
  let reader := if explicit then Node.nodeUnless fuel endsDocument true false else Node.node fuel true false
  let (root, state) ← reader.run { tokens, handles := handles directives ++ defaultHandles }
  return (root, state.tokens)

def ofTokens? (tokens : List Token) : Option Document := do
  let directives := (tokens.takeWhile fun token => (directive? token).isSome).filterMap directive?
  let tokens := tokens.drop directives.length
  if !accepts directives then none
  let (root, rest) ← match tokens with
    | .textEnd :: _ => none
    | .documentStart :: rest => root? directives true rest
    | tokens => if directives.isEmpty then root? directives false tokens else none
  match rest.dropWhile (· = .documentEnd) with
  | [.textEnd] => return { root, anchored := root.anchored }
  | _ => none

def ofText? (text : Text) : Option Document := (Token.ofText? text).bind ofTokens?

abbrev Look := StateT Nat Option

/-- The node that a node stands for. Where several anchors share a number the last one counts. -/
def follow (document : Document) : Node → Look Node
  | .alias anchor => do
    modify (· + 1)
    document.anchored.reverse.lookup anchor
  | node => return node

/-- What a look finds, if it follows at most a hundred aliases for every mark and scalar of the document. -/
def look? {α : Type} (document : Document) (look : Look α) : Option α := do
  let (found, followed) ← look.run 0
  if followed ≤ 100 * document.root.size then return found else none

def text (document : Document) (node : Node) : Look Text := do
  match ← document.follow node with
  | .scalar _ _ text _ => return text
  | _ => failure

def items (document : Document) (node : Node) : Look (List Node) := do
  match ← document.follow node with
  | .sequence _ items => return items
  | .scalar _ _ [] true => return []
  | _ => failure

def entries (document : Document) (node : Node) : Look (List (Text × Node)) := do
  match ← document.follow node with
  | .mapping _ entries =>
    entries.mapM fun (key, value) => do return (← document.text key, value)
  | .scalar _ _ [] true => return []
  | _ => failure

def nullWords : List Text := ["null", "Null", "NULL", "~"]

def optionalText (document : Document) (node : Node) : Look (Option Text) := do
  match ← document.follow node with
  | .scalar _ _ text false => return some text
  | .scalar _ none text true => return if text.isEmpty || nullWords.elem text then none else some text
  | .scalar _ (some tag) text true =>
    if tag = "tag:yaml.org,2002:null".toList then
      if nullWords.elem text then return none else failure
    else return some text
  | _ => failure

end Document
end ScriptSplit.Yaml
