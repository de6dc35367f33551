import CodeLayout.Document.Error
import CodeLayout.Document.Schema
import CodeLayout.Template.Rendering

/-!
# The nodes of a document

A node is a value of data that describes a fragment. A text or a number is a line,
a sequence is a concatenation, and a mapping with one key names the kind of the
node and describes it.

Every node has a path. It starts with the path of the whole tree, and a step says
which entry or which element of a sequence leads on. An error carries the path of
the node, or of the entry, that is wrong. Children are built before the texts of
their parent, and the first failure ends everything.
-/

set_option autoImplicit false

namespace CodeLayout

/-- The path of an entry. -/
def entryPath (path name : String) : String := path ++ "." ++ name

/-- The path of an element of a sequence. -/
def elementPath (path : String) (index : Nat) : String :=
  path ++ "[" ++ toString index ++ "]"

/-- An error at a path. -/
def problemAt (path : String) (problem : DocumentProblem) : DocumentFailure :=
  .document { place := path, problem }

/-- The error of an entry inside the mapping at a path. -/
def entryFailure (path : String) (problem : Problem) : DocumentFailure :=
  let place :=
    if problem.place.isEmpty then path else entryPath path (".".intercalate problem.place)
  problemAt place (.entry problem.cause)

namespace Node

/-- The variables of templates. -/
abbrev Variables := List (Value × Value)

/-- A step of the building of nodes. Templates may change the variables, also where they
fail. -/
abbrev Build : Type → Type := ExceptT DocumentFailure (StateM Variables)

/-- A text of a node at a path, its template parts filled in. -/
def fillText (text path : String) : Build String := do
  let filling := Template.fill (← get) text
  set filling.bindings
  match filling.result with
  | .ok filled => return filled
  | .error fault =>
    throw (if fault.isOfTemplate then problemAt path (.template fault) else .operation fault)

/-- The text of a number, unless it has too many digits. -/
def integerText (number : Int) : Except DocumentFailure String :=
  if isWritableInteger number then .ok (toString number) else .error .digits

/-- The text of a value that is a text or a number. -/
def lineText? : Value → Option (Except DocumentFailure String)
  | .text plain => some (.ok plain)
  | .int number => some (integerText number)
  | .float number => some (.ok (floatText number))
  | _ => none

/-- A line with the text of a template. -/
def fillLine (path : String) : Except DocumentFailure String → Build DocumentTree
  | .ok text => do return .line (← fillText text path)
  | .error failure => throw failure

/-- The node of a line, described by a text, a number or nothing. -/
def buildLine (path : String) (value : Value) : Build DocumentTree :=
  match value with
  | .null => return .line ""
  | value =>
    match lineText? value with
    | some text => fillLine path text
    | none => throw (problemAt path .notLine)

/-- Texts in ascending order. -/
def sorted (texts : List String) : List String :=
  texts.mergeSort fun left right => left ≤ right

/-- The failure of a mapping that does not have exactly one key. -/
def keysFailure (path : String) (entries : List (Value × Value)) : DocumentFailure :=
  if entries.all fun entry => entry.1.isWritable then
    problemAt path (.notOneKey (sorted (entries.map fun entry => entry.1.shown)))
  else
    .digits

/-- The failure of a mapping whose only key names no kind of node. -/
def kindFailure (path : String) (key : Value) : DocumentFailure :=
  if key.isWritable then problemAt path (.unknownKind key.shown) else .digits

/-- The kind of node that a key names. -/
def kindOf? : Value → Option NodeKind
  | .text name => NodeKind.ofName? name
  | _ => none

/-- Builds the node of a value without parts. -/
def buildScalar (path : String) (plain : Scalar) :
    Build DocumentTree :=
  match plain with
  | .bool truth => throw (problemAt path (.notNode (boolText truth)))
  | .null => throw (problemAt path (.notNode (Value.written .null)))
  | plain =>
    match lineText? (.scalar plain) with
    | some text => fillLine path text
    | none => throw (problemAt path (.unsupported plain.typeName))

mutual

/-- Builds the node at a path. -/
def build (path : String) : Value → Build DocumentTree
  | .list items => do return (.concat (← buildAll path 0 items))
  | .map entries => buildMapping path entries
  | .scalar plain => buildScalar path plain
  | .tuple _ => throw (problemAt path (.unsupported "tuple"))
  | .set _ => throw (problemAt path (.unsupported "set"))
  | .knot _ inner => build path (inner ())
  | .endless => throw (.value .endless)

/-- Builds the node of a mapping: its only key names the kind. -/
def buildMapping (path : String) :
    List (Value × Value) → Build DocumentTree
  | [(key, value)] =>
    match kindOf? key with
    | some kind => buildKind (entryPath path kind.name) kind value
    | none => throw (kindFailure path key)
  | entries => throw (keysFailure path entries)

/-- Builds the node of a kind from its description at a path. -/
def buildKind (path : String) (kind : NodeKind) :
    Value → Build DocumentTree
  | .map entries =>
    match kind with
    | .block =>
      match BlockEntries.read entries with
      | .error problem => throw (entryFailure path problem)
      | .ok block => do
        let body ← buildEntry (entryPath path BlockEntries.body) BlockEntries.body entries
        let start ← fillText block.start (entryPath path "start")
        let close ← fillText block.close (entryPath path "end")
        return (.block start body close block.connect block.inline)
    | .list =>
      match ListEntries.read entries with
      | .error problem => throw (entryFailure path problem)
      | .ok list => do
        let items ← buildEntry (entryPath path ListEntries.items) ListEntries.items entries
        let separator ← fillText list.separator (entryPath path "separator")
        return (.list separator items list.trailing list.inline)
    | .line => throw (problemAt path .notLine)
    | .concat => throw (problemAt path .notSequence)
  | .list items =>
    match kind with
    | .concat => do return (.concat (← buildAll path 0 items))
    | .line => throw (problemAt path .notLine)
    | .block => throw (problemAt path .notDescribed)
    | .list => throw (problemAt path .notDescribed)
  | .knot _ inner => buildKind path kind (inner ())
  | value =>
    match kind with
    | .line => buildLine path value
    | .concat => if value.isNull then return .concat [] else throw (problemAt path .notSequence)
    | .block => throw (problemAt path .notDescribed)
    | .list => throw (problemAt path .notDescribed)

/-- Builds the nodes of the entry with a name. -/
def buildEntry (path name : String) :
    List (Value × Value) → Build (List DocumentTree)
  | [] => return []
  | (key, value) :: rest =>
    if key.text? = some name then buildChildren path value
    else buildEntry path name rest

/-- Builds the nodes that a value describes. Nothing is no node, and what is no
sequence is one node. -/
def buildChildren (path : String) :
    Value → Build (List DocumentTree)
  | .null => return []
  | .list items => buildAll path 0 items
  | .map entries => do return [← buildMapping (elementPath path 0) entries]
  | .scalar plain => do return [← buildScalar (elementPath path 0) plain]
  | .tuple _ => throw (problemAt (elementPath path 0) (.unsupported "tuple"))
  | .set _ => throw (problemAt (elementPath path 0) (.unsupported "set"))
  | .knot _ inner => buildChildren path (inner ())
  | .endless => throw (.value .endless)

/-- Builds the nodes of a sequence, from the element with an index on. -/
def buildAll (path : String) (index : Nat) :
    List Value → Build (List DocumentTree)
  | [] => return []
  | first :: rest => do
    let node ← build (elementPath path index) first
    return node :: (← buildAll path (index + 1) rest)

end

end Node

end CodeLayout
