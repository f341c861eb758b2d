import SqlProbe.Pattern.Bytes
import SqlProbe.Pattern.Expression
import Std.Data.HashMap

/-!
# The extent of a compiled pattern

A pattern is compiled to two automata over bytes, one that reads a text forward and
one that reads it backward, and it is refused if either takes too much memory. This
module finds out how much that is without building them: an automaton is a number
of nodes, of which each takes the same memory, with edges that carry a range of
bytes or none.

* `Extent`: the nodes and the memory of an automaton under construction.
* `Growth`: what building a part does to the extent; it fails past the limit.
* `Extent.ofSet`: a set of characters, whose equal ends are built only once.
* `Extent.ofTexts`: a choice between texts, whose equal beginnings are built once.
* `Expression.grow`: any expression.
* `Expression.fits`: whether both automata of an expression stay below the limit.

Every node that splits the way is counted with all the edges it will have once the
parts around it are connected.
-/

namespace SqlProbe

namespace Pattern

/-! ### Growing -/

/-- How far an automaton is built. -/
structure Extent where
  /-- The number of its nodes. -/
  nodes : Nat
  /-- The bytes of memory they take. -/
  memory : Nat
deriving DecidableEq, Repr

/-- What building a part does to the extent of an automaton; nothing is left if the
automaton becomes too large. -/
abbrev Growth := Extent → Option Extent

namespace Extent

/-- The memory that an automaton may take, in bytes. -/
def limit : Nat := 10 * 1024 * 1024

/-- The memory of a node without its edges. -/
def nodeSize : Nat := 32

/-- The memory of an edge with a range of bytes, in a node that has several. -/
def edgeSize : Nat := 8

/-- The memory of an edge without a range, in a node that splits the way. -/
def linkSize : Nat := 4

/-- The extent of an automaton without nodes. -/
def none : Extent := ⟨0, 0⟩

/-- The extent with one more node, whose edges take some memory. -/
def add (x : Extent) (edges : Nat) : Extent := ⟨x.nodes + 1, x.memory + nodeSize + edges⟩

/-- The extent itself, unless it is past the limit. -/
def check : Growth := fun x => if limit < x.memory then .none else some x

end Extent

namespace Growth

/-- Nothing is built. -/
def nothing : Growth := some

/-- One part after another. -/
def andThen (g h : Growth) : Growth := fun x => (g x).bind h

/-- A part several times. -/
def times (g : Growth) : Nat → Growth
  | 0 => nothing
  | n + 1 => fun x => (g x).bind (times g n)

/-- A node with one edge at most. -/
def node : Growth := fun x => Extent.check (x.add 0)

/-- A node that splits the way, with a number of edges. -/
def split (links : Nat) : Growth := fun x => Extent.check (x.add (Extent.linkSize * links))

/-- A node with a number of edges that carry ranges. -/
def fork (edges : Nat) : Growth := fun x => Extent.check (x.add (Extent.edgeSize * edges))

end Growth

/-! ### Sets of characters -/

/-- An edge that carries a range of bytes. -/
structure Edge where
  /-- The bytes. -/
  range : ByteRange
  /-- The number of the node it leads to. -/
  target : Nat
deriving DecidableEq, Repr

/-- An extent together with the nodes that were built last, of which one is known
for each slot of a table. -/
structure Sharing (κ : Type) where
  /-- The extent. -/
  extent : Extent
  /-- The nodes that are known, by slot: what was asked for, and its number. -/
  known : Std.HashMap Nat (κ × Nat)

namespace Sharing

/-- The size of the table forward, where nodes are known with all their edges. -/
def forwardSlots : Nat := 10000

/-- The size of the table backward, where each node has one edge. -/
def backwardSlots : Nat := 1000

/-- The hash of no numbers. -/
def hashSeed : UInt64 := 14695981039346656037

/-- The hash of some numbers and one more: it is combined with what came before and
spread over 64 bits. -/
def mixHash (h : UInt64) (n : Nat) : UInt64 := (h ^^^ n.toUInt64) * 1099511628211

/-- The slot of the edges of a node in a table. -/
def forwardSlot (edges : List Edge) : Nat :=
  (edges.foldl (fun h e => mixHash (mixHash (mixHash h e.range.first) e.range.last) e.target)
    hashSeed).toNat % forwardSlots

/-- The slot of a single edge in a table. -/
def backwardSlot (e : Edge) : Nat :=
  (mixHash (mixHash (mixHash hashSeed e.target) e.range.first) e.range.last).toNat %
    backwardSlots

/-- A new node, with its number; it is the one that is known for its slot from now
on. -/
def new {κ : Type} (s : Sharing κ) (slot : Nat) (key : κ) (edges : Nat) : Nat × Sharing κ :=
  (s.extent.nodes, ⟨s.extent.add edges, s.known.insert slot (key, s.extent.nodes)⟩)

/-- The number of a node: that of the known one if it is the same, or of a new one. -/
def node {κ : Type} [BEq κ] (s : Sharing κ) (slot : Nat) (key : κ) (edges : Nat) :
    Nat × Sharing κ :=
  match s.known[slot]? with
  | some (known, number) => if known == key then (number, s) else s.new slot key edges
  | none => s.new slot key edges

end Sharing

/-- Sequences with the same first range put together, those after one another. -/
def groupByFirst : List ByteSequence → List (ByteRange × List ByteSequence)
  | [] => []
  | [] :: rest => groupByFirst rest
  | (r :: tail) :: rest =>
    match groupByFirst rest with
    | (r', tails) :: groups =>
      if r = r' then (r, tail :: tails) :: groups else (r, [tail]) :: (r', tails) :: groups
    | [] => [(r, [tail])]

/-- Builds a node from which sequences lead to the target, nodes further on first.
No sequence is longer than `length`. -/
def shareForward (target : Nat) : (length : Nat) → List ByteSequence →
    Sharing (List Edge) → Nat × Sharing (List Edge)
  | 0, _, s => (target, s)
  | length + 1, sequences, s =>
    let (reversed, s) := (groupByFirst sequences).foldl (fun (edges, s) (range, tails) =>
      if tails.all (·.isEmpty) then (⟨range, target⟩ :: edges, s)
      else
        let (next, s) := shareForward target length tails s
        (⟨range, next⟩ :: edges, s)) ([], s)
    let edges := reversed.reverse
    s.node (Sharing.forwardSlot edges) edges (Extent.edgeSize * edges.length)

/-- Builds the edges of one sequence backward, up to its first byte. -/
def shareBackward (target : Nat) (sequence : ByteSequence) (s : Sharing Edge) : Sharing Edge :=
  (sequence.foldl (fun (next, s) range =>
    s.node (Sharing.backwardSlot ⟨range, next⟩) ⟨range, next⟩ 0) (target, s)).2

/-- The direction in which an automaton reads a text. -/
inductive Direction where
  /-- From the beginning. -/
  | forward
  /-- From the end. -/
  | backward
deriving DecidableEq, Repr

/-- A set of characters beyond ASCII, by its sequences of bytes. -/
def growSequences (d : Direction) (sequences : List ByteSequence) : Growth := fun x =>
  match d with
  | .forward =>
    let target := x.nodes
    Extent.check (shareForward target 4 sequences ⟨x.add 0, ∅⟩).2.extent
  | .backward =>
    let target := x.nodes + 1
    let hub := (x.add (Extent.linkSize * sequences.length)).add 0
    Extent.check (sequences.foldl (fun s q => shareBackward target q s)
      (⟨hub, ∅⟩ : Sharing Edge)).extent

/-! ### Texts -/

/-- The parts of a list between the members that meet a test. -/
def splitAtAll {α : Type} (p : α → Bool) : List α → List (List α)
  | [] => [[]]
  | a :: rest =>
    match p a, splitAtAll p rest with
    | true, parts => [] :: parts
    | false, part :: parts => (a :: part) :: parts
    | false, [] => [[a]]

/-- Groups of texts by their first byte, in ascending order, with one more text in
front. -/
def addText (b : Nat) (tail : List Nat) :
    List (Nat × List (List Nat)) → List (Nat × List (List Nat))
  | [] => [(b, [tail])]
  | (b', tails) :: groups =>
    if b < b' then (b, [tail]) :: (b', tails) :: groups
    else if b = b' then (b, tail :: tails) :: groups
    else (b', tails) :: addText b tail groups

/-- The texts that begin with each byte, without it, by the byte. -/
def groupByByte (texts : List (List Nat)) : List (Nat × List (List Nat)) :=
  texts.foldr (fun text groups =>
    match text with
    | [] => groups
    | b :: tail => addText b tail groups) []

/-- The texts with those that are empty at the beginning counted once, since nothing
more can be matched where a text has ended and no other goes on. -/
def mergeEnds : List (List Nat) → List (List Nat)
  | [] :: rest => [] :: rest.dropWhile (·.isEmpty)
  | texts => texts

/-- Builds the node from which the rests of texts lead on. Where a text ends, those
after it are kept apart from those before it, as they come later in the choice. No
text is longer than `length`. -/
def growTexts : (length : Nat) → List (List Nat) → Growth
  | 0, _ => Growth.nothing
  | length + 1, texts =>
    let parts := (splitAtAll (·.isEmpty) (mergeEnds texts)).map groupByByte
    let grown := parts.map fun groups =>
      groups.foldr (fun (_, tails) g =>
        Growth.andThen (if tails.all (·.isEmpty) then Growth.nothing else growTexts length tails)
          g)
        (match groups.length with
          | 0 => Growth.nothing
          | 1 => Growth.node
          | n => Growth.fork n)
    let links := (parts.filter (!·.isEmpty)).length + (parts.length - 1)
    (grown.foldr Growth.andThen Growth.nothing).andThen (Growth.split links)

/-- A choice between texts. -/
def growTrie (d : Direction) (texts : List (List Nat)) : Growth :=
  let texts := match d with
    | .forward => texts
    | .backward => texts.map List.reverse
  Growth.node.andThen (growTexts ((texts.map List.length).foldl max 0 + 1) texts)

/-! ### Steps -/

/-- A step as it is compiled. -/
inductive Piece where
  /-- A run of bytes. -/
  | text (bytes : List Nat)
  /-- A set of ASCII characters, of which only the number of intervals counts. -/
  | ascii (intervals : Nat)
  /-- Another set of characters. -/
  | wide (sequences : List ByteSequence)
  /-- A condition on a place. -/
  | place
deriving DecidableEq, Repr

/-- The step as it is compiled. -/
def Step.piece : Step → Piece
  | literal cs => .text (cs.flatMap fun c => ByteSequence.encode c.toNat)
  | set s _ => if s.isAscii then .ascii s.intervals.length else .wide s.byteSequences
  | place _ => .place

namespace Piece

/-- The fewest bytes that are taken, if there is a match at all. -/
def minLength? : Piece → Option Nat
  | text bytes => some bytes.length
  | ascii intervals => if intervals = 0 then none else some 1
  | wide _ => some 1
  | place => some 0

/-- Builds the step. -/
def grow (d : Direction) : Piece → Growth
  | text bytes => Growth.node.times bytes.length
  | ascii intervals => Growth.node.andThen (Growth.fork intervals)
  | wide sequences => growSequences d sequences
  | place => Growth.node

end Piece

/-! ### Expressions -/

/-- A repetition of a part, of which is known whether every match takes a
character. -/
def growRepeated (part : Growth) (takes : Bool) (low : Nat) (high : Option Nat) : Growth :=
  let exactly (n : Nat) : Growth := if n = 0 then Growth.node else part.times n
  match low, high with
  | 0, none =>
    if takes then (Growth.split 2).andThen part
    else ((part.andThen (Growth.split 2)).andThen (Growth.split 2)).andThen Growth.node
  | 1, none => part.andThen (Growth.split 2)
  | low, none => ((exactly (low - 1)).andThen part).andThen (Growth.split 2)
  | 0, some 1 => ((Growth.split 2).andThen part).andThen Growth.node
  | low, some high =>
    if low = high then exactly low
    else ((exactly low).andThen Growth.node).andThen
      (((Growth.split 2).andThen part).times (high - low))

end Pattern

open Pattern

namespace Expression

mutual

/-- The fewest bytes that a match takes. Nothing is known of an expression in which
some set is empty. -/
def minLength? : Expression Piece → Option Nat
  | empty => some 0
  | step p => p.minLength?
  | repeated body low _ _ => body.minLength?.map (low * ·)
  | capture body => body.minLength?
  | seq items => sumLength? items
  | alt branches => leastLength? branches

/-- The fewest bytes that matches of all the expressions take together. -/
def sumLength? : List (Expression Piece) → Option Nat
  | [] => some 0
  | e :: rest => do some ((← e.minLength?) + (← sumLength? rest))

/-- The fewest bytes that a match of one of the expressions takes. -/
def leastLength? : List (Expression Piece) → Option Nat
  | [] => none
  | [e] => e.minLength?
  | e :: rest => do some (min (← e.minLength?) (← leastLength? rest))

end

/-- The texts that branches stand for, if all are runs of characters. -/
def texts? (branches : List (Expression Piece)) : Option (List (List Nat)) :=
  branches.mapM fun
    | step (.text bytes) => some bytes
    | _ => none

mutual

/-- Builds an expression. Groups keep their matches only where a text is read
forward. -/
def grow (d : Direction) : Expression Piece → Growth
  | empty => Growth.node
  | step p => p.grow d
  | repeated body low high _ =>
    growRepeated (body.grow d) (body.minLength?.any (· != 0)) low high
  | capture body =>
    match d with
    | .forward => (Growth.node.andThen (body.grow d)).andThen Growth.node
    | .backward => body.grow d
  | seq items => growAll d items
  | alt branches =>
    match texts? branches with
    | some texts => growTrie d texts
    | none => growBranches d ((Growth.split branches.length).andThen Growth.node) 2 branches

/-- Builds expressions one after another, in the order in which they are read. -/
def growAll (d : Direction) : List (Expression Piece) → Growth
  | [] => Growth.nothing
  | e :: rest =>
    match d with
    | .forward => (e.grow d).andThen (growAll d rest)
    | .backward => (growAll d rest).andThen (e.grow d)

/-- Builds the branches of a choice, and after the given number of them the node from
which they part and the one in which they meet. -/
def growBranches (d : Direction) (hub : Growth) : Nat → List (Expression Piece) → Growth
  | _, [] => Growth.nothing
  | before, e :: rest =>
    ((e.grow d).andThen (if before = 1 then hub else Growth.nothing)).andThen
      (growBranches d hub (before - 1) rest)

end

/-- Builds what lets a match begin anywhere, or a single node if every match begins
where reading begins. -/
def growEntry (isBound : Bool) : Growth :=
  if isBound then Growth.node
  else ((Growth.split 2).andThen Growth.node).andThen (Growth.fork 1)

/-- The extent of the automaton of an expression. -/
def extent (e : Expression Step) (d : Direction) : Option Extent :=
  let isBound := match d with
    | .forward => e.isBoundBy .textStart false
    | .backward => e.isBoundBy .textEnd true
  (((growEntry isBound).andThen ((capture (e.map Step.piece)).grow d)).andThen Growth.node) .none

/-- Whether both automata of an expression stay below the limit. -/
def fits (e : Expression Step) : Bool :=
  (e.extent .forward).isSome && (e.extent .backward).isSome

end Expression

end SqlProbe
