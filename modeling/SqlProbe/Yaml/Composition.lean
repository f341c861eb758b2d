import SqlProbe.Yaml.Defect
import SqlProbe.Yaml.Node

/-!
# Composing nodes from tokens

The tokens of a document are read one at a time into a stack of unfinished
nodes. Every frame of the stack knows how far its node has got and which tokens
may come next. A node that is left out where one could stand is empty. The end of
the text counts as one more token.

* `Frame`: an unfinished node.
* `Stack.feed`: the effect of one token on the unfinished nodes.
* `Draft.step`: the effect of one token on the unfinished document.
* `Document.ofTokens`: the document of some tokens.
-/

namespace SqlProbe

namespace Yaml

/-! ### Names -/

/-- A token whose names have been looked up. -/
inductive Symbol where
  /-- An alias. -/
  | aliasOf (anchor : Nat)
  /-- An anchor of the node that follows. -/
  | anchor (anchor : Nat)
  /-- The tag of the node that follows. -/
  | tag (text : String)
  /-- A scalar. -/
  | scalar (style : ScalarStyle) (text : String)
  /-- Any other token. -/
  | mark (t : Token)
  /-- The end of the text. -/
  | ending
deriving DecidableEq, Repr

/-- The names of a document. -/
structure Names where
  /-- The abbreviations for the beginnings of tags. -/
  handles : List (List Char × List Char)
  /-- The anchors so far, the last one first. -/
  anchors : List (List Char × Nat)
deriving DecidableEq, Repr

namespace Names

/-- The abbreviations that every document has. -/
def defaultHandles : List (List Char × List Char) :=
  [(['!'], ['!']), (['!', '!'], "tag:yaml.org,2002:".toList)]

/-- The anchors with one more. Its number is that of the names there were
before, so that a name given anew does not raise the number of the next one. -/
def addAnchor (n : Names) (name : List Char) : Names :=
  let number := n.anchors.length
  { n with anchors := (name, number) :: n.anchors.filter (·.1 ≠ name) }

/-- The full text of a tag. -/
def tag? (n : Names) (handle suffix : List Char) : Option String :=
  if handle.isEmpty then some (String.ofList suffix)
  else (n.handles.lookup handle).map fun start => String.ofList (start ++ suffix)

/-- The symbol of a token, and the names after it. -/
def symbol (n : Names) : Token → Except Defect (Symbol × Names)
  | .aliasOf name => (expect .unknownAnchor (n.anchors.lookup name)).map fun a => (.aliasOf a, n)
  | .anchor name => .ok (.anchor n.anchors.length, n.addAnchor name)
  | .tag handle suffix => (expect .unknownHandle (n.tag? handle suffix)).map fun t => (.tag t, n)
  | .scalar style text => .ok (.scalar style (String.ofList text), n)
  | t => .ok (.mark t, n)

end Names

/-! ### Unfinished nodes -/

/-- How far an entry of a mapping has got. -/
inductive EntryStage where
  /-- No entry has begun. -/
  | between
  /-- A key has begun. -/
  | key
  /-- A key is finished. -/
  | afterKey (key : Node)
  /-- A value has begun. -/
  | value (key : Node)
deriving Repr

/-- How far a flow collection has got. -/
inductive FlowStage where
  /-- An entry may begin, or the collection may end. -/
  | ready
  /-- An entry is finished. -/
  | afterEntry
deriving DecidableEq, Repr

/-- How far a flow mapping has got. -/
inductive FlowMappingStage where
  /-- An entry may begin, or the mapping may end. -/
  | ready
  /-- An entry is finished. -/
  | afterEntry
  /-- A key without a mark has begun, to which no value belongs. -/
  | bareKey
  /-- A key has begun. -/
  | key
  /-- A key is finished. -/
  | afterKey (key : Node)
  /-- A value has begun. -/
  | value (key : Node)
deriving Repr

/-- An unfinished node. The last item or entry comes first. -/
inductive Frame where
  /-- The root has not begun. It may be left out if the document has a mark. -/
  | root (marked : Bool)
  /-- The root is finished. -/
  | finished (node : Node)
  /-- A node of which only the marks are known. -/
  | pending (marks : Marks)
  /-- A block sequence, and whether an entry has begun. -/
  | blockSequence (marks : Marks) (items : List Node) (entry : Bool)
  /-- A block sequence without an indentation of its own. -/
  | flatSequence (marks : Marks) (items : List Node) (entry : Bool)
  /-- A block mapping. -/
  | blockMapping (marks : Marks) (entries : List (Node × Node)) (stage : EntryStage)
  /-- A flow sequence. -/
  | flowSequence (marks : Marks) (items : List Node) (stage : FlowStage)
  /-- A single entry that is an item of a flow sequence. -/
  | flowPair (stage : EntryStage)
  /-- A flow mapping. -/
  | flowMapping (marks : Marks) (entries : List (Node × Node)) (stage : FlowMappingStage)
deriving Repr

/-- The unfinished nodes, the innermost one first. -/
abbrev Stack := List Frame

namespace Stack

/-- The empty node without marks. -/
def nothing : Node := .empty .none

/-- Whether a block collection may begin inside a frame. -/
def allowsBlock : Frame → Bool
  | .root _ | .blockSequence _ _ _ | .flatSequence _ _ _ | .blockMapping _ _ _ => true
  | _ => false

/-- Whether a sequence without an indentation of its own may begin. -/
def allowsFlat : Frame → Bool
  | .blockMapping _ _ _ => true
  | _ => false

/-- What is wrong where a node has to begin and the token begins none. -/
def missingNode (stack : Stack) : Defect := .noNode (!stack.head?.any allowsBlock)

/-- A finished node becomes part of the innermost unfinished one. -/
def plug (n : Node) : Stack → Except Defect Stack
  | .root _ :: rest => .ok (.finished n :: rest)
  | .blockSequence m items true :: rest => .ok (.blockSequence m (n :: items) false :: rest)
  | .flatSequence m items true :: rest => .ok (.flatSequence m (n :: items) false :: rest)
  | .blockMapping m entries .key :: rest => .ok (.blockMapping m entries (.afterKey n) :: rest)
  | .blockMapping m entries (.value k) :: rest =>
    .ok (.blockMapping m ((k, n) :: entries) .between :: rest)
  | .flowSequence m items .ready :: rest => .ok (.flowSequence m (n :: items) .afterEntry :: rest)
  | .flowPair .key :: rest => .ok (.flowPair (.afterKey n) :: rest)
  | .flowPair (.value k) :: .flowSequence m items _ :: rest =>
    .ok (.flowSequence m (.mapping .none [(k, n)] :: items) .afterEntry :: rest)
  | .flowMapping m entries .bareKey :: rest =>
    .ok (.flowMapping m ((n, nothing) :: entries) .afterEntry :: rest)
  | .flowMapping m entries .key :: rest => .ok (.flowMapping m entries (.afterKey n) :: rest)
  | .flowMapping m entries (.value k) :: rest =>
    .ok (.flowMapping m ((k, n) :: entries) .afterEntry :: rest)
  | stack => .error (missingNode stack)

/-- The content of a node begins, or all of it if it is a scalar. -/
def beginContent (marks : Marks) (s : Symbol) (stack : Stack) : Except Defect Stack :=
  match s with
  | .scalar style text => plug (.scalar marks style text) stack
  | .mark .flowSequenceStart => .ok (.flowSequence marks [] .ready :: stack)
  | .mark .flowMappingStart => .ok (.flowMapping marks [] .ready :: stack)
  | .mark .blockSequenceStart =>
    if stack.head?.any allowsBlock then .ok (.blockSequence marks [] false :: stack)
    else .error (missingNode stack)
  | .mark .blockMappingStart =>
    if stack.head?.any allowsBlock then .ok (.blockMapping marks [] .between :: stack)
    else .error (missingNode stack)
  | .mark .blockEntry =>
    if stack.head?.any allowsFlat then .ok (.flatSequence marks [] true :: stack)
    else .error (missingNode stack)
  | _ => .error (missingNode stack)

/-- A node begins. -/
def beginNode (s : Symbol) (stack : Stack) : Except Defect Stack :=
  match s with
  | .aliasOf a => plug (.aliasOf a) stack
  | .anchor a => .ok (.pending { Marks.none with anchor := some a } :: stack)
  | .tag t => .ok (.pending { Marks.none with tag := some t } :: stack)
  | s => beginContent .none s stack

/-! ### The effect of a token on each frame -/

/-- More marks of a node, if the token is one that is still missing. -/
def addMark? (marks : Marks) : Symbol → Option Marks
  | .anchor a => if marks.anchor.isNone then some { marks with anchor := some a } else none
  | .tag t => if marks.tag.isNone then some { marks with tag := some t } else none
  | _ => none

/-- The effect on a block sequence. -/
def feedBlockSequence (m : Marks) (items : List Node) (entry : Bool) (s : Symbol) (rest : Stack) :
    Except Defect Stack :=
  let items' := if entry then nothing :: items else items
  match s with
  | .mark .blockEntry => .ok (.blockSequence m items' true :: rest)
  | .mark .blockEnd => plug (.sequence m items'.reverse) rest
  | s => if entry then beginNode s (.blockSequence m items true :: rest) else .error .noEntry

/-- The effect on a block mapping. -/
def feedBlockMapping (m : Marks) (entries : List (Node × Node)) (stage : EntryStage) (s : Symbol)
    (rest : Stack) : Except Defect Stack :=
  let entries' := match stage with
    | .between => entries
    | .key => (nothing, nothing) :: entries
    | .afterKey k => (k, nothing) :: entries
    | .value k => (k, nothing) :: entries
  match s, stage with
  | .mark .key, _ => .ok (.blockMapping m entries' .key :: rest)
  | .mark .blockEnd, _ => plug (.mapping m entries'.reverse) rest
  | .mark .value, .key => .ok (.blockMapping m entries (.value nothing) :: rest)
  | .mark .value, .afterKey k => .ok (.blockMapping m entries (.value k) :: rest)
  | .mark .value, _ => .error .noKey
  | s, .key => beginNode s (.blockMapping m entries .key :: rest)
  | s, .value k => beginNode s (.blockMapping m entries (.value k) :: rest)
  | _, _ => .error .noKey

/-- The effect on a flow sequence. -/
def feedFlowSequence (m : Marks) (items : List Node) (stage : FlowStage) (s : Symbol)
    (rest : Stack) : Except Defect Stack :=
  match s, stage with
  | .mark .flowSequenceEnd, _ => plug (.sequence m items.reverse) rest
  | .mark .flowEntry, .afterEntry => .ok (.flowSequence m items .ready :: rest)
  | .mark .key, .ready => .ok (.flowPair .key :: .flowSequence m items .ready :: rest)
  | s, .ready => beginNode s (.flowSequence m items .ready :: rest)
  | _, .afterEntry => .error .openSequence

/-- The effect on a flow mapping. -/
def feedFlowMapping (m : Marks) (entries : List (Node × Node)) (stage : FlowMappingStage)
    (s : Symbol) (rest : Stack) : Except Defect Stack :=
  let entries' := match stage with
    | .key => (nothing, nothing) :: entries
    | .afterKey k => (k, nothing) :: entries
    | .value k => (k, nothing) :: entries
    | _ => entries
  match s, stage with
  | _, .bareKey => .error .openMapping
  | .mark .flowMappingEnd, _ => plug (.mapping m entries'.reverse) rest
  | .mark .flowEntry, .ready => .error (.noNode true)
  | .mark .flowEntry, _ => .ok (.flowMapping m entries' .ready :: rest)
  | .mark .key, .ready => .ok (.flowMapping m entries .key :: rest)
  | .mark .value, .key => .ok (.flowMapping m entries (.value nothing) :: rest)
  | .mark .value, .afterKey k => .ok (.flowMapping m entries (.value k) :: rest)
  | s, .ready => beginNode s (.flowMapping m entries .bareKey :: rest)
  | s, .key => beginNode s (.flowMapping m entries .key :: rest)
  | s, .value k => beginNode s (.flowMapping m entries (.value k) :: rest)
  | _, _ => .error .openMapping

/-- Whether a token ends an entry of a sequence without an indentation. -/
def endsFlatEntry : Symbol → Bool
  | .mark .blockEntry | .mark .key | .mark .value | .mark .blockEnd => true
  | _ => false

/-- Whether a token ends an item of a flow sequence. -/
def endsFlowItem : Symbol → Bool
  | .mark .flowEntry | .mark .flowSequenceEnd => true
  | _ => false

/-- The key of a single entry inside a flow sequence, if the token ends the entry
without a value. -/
def endedKey? (stage : EntryStage) (s : Symbol) : Option Node :=
  match stage with
  | .afterKey k => if s = .mark .value then none else some k
  | .value k => if endsFlowItem s then some k else none
  | _ => none

/-- The effect on a single entry inside a flow sequence that the token does not
end. A token that could follow the key takes the place of a missing one. -/
def feedFlowPair (stage : EntryStage) (s : Symbol) (rest : Stack) : Except Defect Stack :=
  match stage with
  | .key =>
    if s = .mark .value || endsFlowItem s then .ok (.flowPair (.afterKey nothing) :: rest)
    else beginNode s (.flowPair .key :: rest)
  | .afterKey k => .ok (.flowPair (.value k) :: rest)
  | .value k => beginNode s (.flowPair (.value k) :: rest)
  | .between => .error .openSequence

/-- Whether a token begins a document, or its directives. -/
def beginsDocument : Token → Bool
  | .documentStart | .version _ _ | .tagDirective _ _ => true
  | _ => false

/-- The effect on a root that has not begun. With the mark of its document it may be
left out. -/
def feedRoot (marked : Bool) (s : Symbol) (rest : Stack) : Except Defect Stack :=
  match marked, s with
  | true, .ending | true, .mark .documentEnd => .ok (.finished nothing :: rest)
  | true, .mark t =>
    if beginsDocument t then .error .severalDocuments
    else beginNode (.mark t) (.root true :: rest)
  | marked, s => beginNode s (.root marked :: rest)

/-- The effect on a finished root: the mark of the end may come again. -/
def feedFinished (n : Node) (s : Symbol) (rest : Stack) : Except Defect Stack :=
  if s = .mark .documentEnd || s = .ending then .ok (.finished n :: rest)
  else .error .severalDocuments

/-- The effect of a token. A frame that the token ends without being its mark is
finished first, and then the token goes to the next frame; the fuel is the
number of frames. -/
def feedWithin : Nat → Symbol → Stack → Except Defect Stack
  | fuel + 1, s, .pending marks :: rest =>
    match addMark? marks s, beginContent marks s rest with
    | some marks, _ => .ok (.pending marks :: rest)
    | none, .ok stack => .ok stack
    | none, .error _ => (plug (.empty marks) rest).bind (feedWithin fuel s)
  | fuel + 1, s, .flatSequence m items entry :: rest =>
    if s = .mark .blockEntry then
      .ok (.flatSequence m (if entry then nothing :: items else items) true :: rest)
    else if entry && !endsFlatEntry s then beginNode s (.flatSequence m items true :: rest)
    else
      let items := if entry then nothing :: items else items
      (plug (.sequence m items.reverse) rest).bind (feedWithin fuel s)
  | fuel + 1, s, .flowPair stage :: rest =>
    match endedKey? stage s with
    | some k => (plug nothing (.flowPair (.value k) :: rest)).bind (feedWithin fuel s)
    | none => feedFlowPair stage s rest
  | _, s, .root marked :: rest => feedRoot marked s rest
  | _, s, .finished n :: rest => feedFinished n s rest
  | _, s, .blockSequence m items entry :: rest => feedBlockSequence m items entry s rest
  | _, s, .blockMapping m entries stage :: rest => feedBlockMapping m entries stage s rest
  | _, s, .flowSequence m items stage :: rest => feedFlowSequence m items stage s rest
  | _, s, .flowMapping m entries stage :: rest => feedFlowMapping m entries stage s rest
  | _, _, stack => .error (missingNode stack)

/-- The effect of a token. -/
def feed (stack : Stack) (s : Symbol) : Except Defect Stack :=
  feedWithin (stack.length + 1) s stack

end Stack

/-! ### Documents -/

/-- What stands in front of the root. -/
structure Prologue where
  /-- Whether the version of the language has been told. -/
  versioned : Bool
  /-- The abbreviations for the beginnings of tags. -/
  handles : List (List Char × List Char)
deriving DecidableEq, Repr

/-- A document in progress. -/
inductive Draft where
  /-- Nothing has been read. -/
  | start
  /-- Directives have been read, and the mark of the document is to follow. -/
  | prologue (p : Prologue)
  /-- The root is being read. -/
  | body (names : Names) (stack : Stack)
deriving Repr

namespace Draft

/-- The effect of a token on what stands in front of the root. The directives are
about version 1.1 or 1.2, and none is given twice. -/
def declare (p : Prologue) : Token → Except Defect Draft
  | .version major minor =>
    if p.versioned then .error .twoVersions
    else if major ≠ 1 || !(minor = 1 || minor = 2) then .error .badVersion
    else .ok (.prologue { p with versioned := true })
  | .tagDirective handle text =>
    if (p.handles.lookup handle).isSome then .error .twoHandles
    else .ok (.prologue { p with handles := p.handles ++ [(handle, text)] })
  | .documentStart => .ok (.body ⟨p.handles ++ Names.defaultHandles, []⟩ [.root true])
  | _ => .error .noDocument

/-- The effect of a token on the root. -/
def compose (names : Names) (stack : Stack) (t : Token) : Except Defect Draft := do
  let (s, names) ← names.symbol t
  let stack ← stack.feed s
  .ok (.body names stack)

/-- The effect of a token. -/
def step : Draft → Token → Except Defect Draft
  | start, t =>
    if Stack.beginsDocument t then declare ⟨false, []⟩ t
    else compose ⟨Names.defaultHandles, []⟩ [.root false] t
  | prologue p, t => declare p t
  | body names stack, t => compose names stack t

/-- The document, when no token is left. No token is a document without a root. -/
def finish : Draft → Except Defect Document
  | start => .ok .void
  | prologue _ => .error .noDocument
  | body _ stack => do
    let stack ← stack.feed .ending
    match stack with
    | [.finished root] => .ok (.ofRoot root)
    | stack => .error (Stack.missingNode stack)

end Draft

namespace Document

/-- The document of some tokens. -/
def ofTokens (tokens : List Token) : Except Defect Document := do
  let draft ← tokens.foldlM Draft.step .start
  draft.finish

/-- What is wrong with a text, given a defect behind some tokens: it is the defect,
unless one of the tokens has no place. -/
def defectBehind (tokens : List Token) (d : Defect) : Defect :=
  match tokens.foldlM Draft.step .start with
  | .ok _ => d
  | .error first => first

end Document

end Yaml

end SqlProbe
