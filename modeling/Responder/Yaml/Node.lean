/-
# Responder.Yaml.Node -- documents of YAML

A document is a tree of texts, sequences and mappings.  A node with an anchor
may be named again by an alias, also inside itself; so aliases stay in the
tree, and `Document.resolve` follows one.  The number of an anchor is how many
different names anchors have before it, so a name that is used again may share
its number with a later name; an alias stands for the last node of its number.
A small document could make a reader visit very many nodes by aliases to nodes
with aliases; so a document is read by a `Visit`, which may follow no more of
them than `Document.allowance` says.
-/
import Responder.Yaml.Token
import Responder.Url.Percent

namespace Responder.Yaml

set_option autoImplicit false

/-- A node of a document. -/
inductive Node where
  /-- A text, which has a tag only if one was written. -/
  | scalar (text : String) (plain : Bool) (tag : Option String)
  | sequence (items : List Node)
  | mapping (pairs : List (Node × Node))
  /-- The node with an anchor, by the number of the anchor. -/
  | alias (anchor : Nat)

instance : Inhabited Node := ⟨.sequence []⟩

/-- A document: none is the root of an empty text. -/
structure Document where
  root : Option Node
  /-- The nodes with anchors, by number; those that start later come first. -/
  anchored : List (Nat × Node)

/-! ## Following aliases -/

mutual

/-- The number of marks that a node takes: one for a text or an alias, and two
around what is in a sequence or a mapping. -/
def Node.marks : Node → Nat
  | .scalar .. | .alias _ => 1
  | .sequence items => Node.itemMarks items + 2
  | .mapping pairs => Node.pairMarks pairs + 2

/-- The number of marks that the items of a sequence take. -/
def Node.itemMarks : List Node → Nat
  | [] => 0
  | item :: rest => item.marks + Node.itemMarks rest

/-- The number of marks that the pairs of a mapping take. -/
def Node.pairMarks : List (Node × Node) → Nat
  | [] => 0
  | (key, value) :: rest => key.marks + value.marks + Node.pairMarks rest

end

/-- How many aliases may be followed in reading a document. -/
def Document.allowance (d : Document) : Nat := 100 * (d.root.map Node.marks).getD 0

/-- Reading of a document, with the number of aliases that may still be followed. -/
abbrev Visit := StateT Nat Option

/-- The node that a node stands for. -/
def Document.resolve (d : Document) (node : Node) : Visit Node := do
  match node with
  | .alias anchor =>
    match ← get with
    | 0 => failure
    | left + 1 =>
      set left
      d.anchored.lookup anchor
  | _ => return node

/-- What reading a document gives, if nothing is wrong with it. -/
def Document.visit {α : Type} (d : Document) (reading : Visit α) : Option α :=
  reading.run' d.allowance

/-! ## Reading words -/

/-- A node with an anchor. -/
structure Anchored where
  /-- How many anchors stand before it. -/
  place : Nat
  number : Nat
  node : Node

/-- What is left to read, and what anchors and handles stand for. -/
structure Reader where
  words : List Token
  /-- The handles that are declared, and what they are short for. -/
  handles : List (List Char × List Char)
  /-- The number that each name has at this place. -/
  names : List (List Char × Nat)
  /-- How many anchors there are so far. -/
  anchors : Nat
  /-- The nodes with anchors, those that end later first. -/
  anchored : List Anchored

/-- Reading that may find no YAML. -/
abbrev Read := StateT Reader Option

namespace Read

/-- The next word. -/
def peek : Read (Option Token) := do return (← get).words.head?

/-- Passes a word. -/
def advance : Read Unit := modify fun r => { r with words := r.words.tail }

/-- Passes the next word if it is this one. -/
def accept (word : Token) : Read Bool := do
  if (← peek) == some word then
    advance
    return true
  else return false

/-- Passes the comma between items in brackets. -/
def separator : Read Unit := do
  if ← accept .comma then return () else failure

/-- The text of a node that is not written. -/
def emptyNode : Node := .scalar "" true none

/-- Gives an anchor's name its number from here on; the place of the anchor and the number. -/
def declare (name : List Char) : Read (Nat × Nat) := do
  let r ← get
  let number := r.names.length
  set { r with
    names := (name, number) :: r.names.filter (·.1 ≠ name)
    anchors := r.anchors + 1 }
  return (r.anchors, number)

/-- The full form of a tag: its handle must be declared and its percent signs
must denote characters. -/
def fullTag (handle suffix : List Char) : Read String := do
  let handles := (← get).handles
  let some start := if handle = [] then some [] else handles.lookup handle | failure
  let some decoded := Url.decode? suffix | failure
  return String.ofList (start ++ decoded)

/-- An anchor and a tag in either order. -/
def properties : Read (Option (List Char) × Option String) := do
  match ← peek with
  | some (.anchor name) =>
    advance
    match ← peek with
    | some (.tag handle suffix) =>
      advance
      return (some name, some (← fullTag handle suffix))
    | _ => return (some name, none)
  | some (.tag handle suffix) =>
    advance
    let tag ← fullTag handle suffix
    match ← peek with
    | some (.anchor name) =>
      advance
      return (some name, some tag)
    | _ => return (none, some tag)
  | _ => return (none, none)

mutual

/-- A node; in brackets it may not be a block, and after a key a sequence need
not be indented. -/
def node : Nat → Bool → Bool → Read Node
  | 0, _, _ => failure
  | fuel + 1, block, flush => do
    match ← peek with
    | some (.alias name) =>
      advance
      let some number := (← get).names.lookup name | failure
      return .alias number
    | _ =>
      let (anchor, tag) ← properties
      match anchor with
      | none => content fuel block flush false tag
      | some name =>
        let (place, number) ← declare name
        let n ← content fuel block flush true tag
        modify fun r => { r with anchored := ⟨place, number, n⟩ :: r.anchored }
        return n

/-- A node after its properties, which may be all that is written of it. -/
def content : Nat → Bool → Bool → Bool → Option String → Read Node
  | 0, _, _, _, _ => failure
  | fuel + 1, block, flush, anchored, tag => do
    let word ← peek
    match word, block, flush with
    | some .dash, _, true => return .sequence (← flushItems fuel)
    | some (.scalar text plain), _, _ =>
      advance
      return .scalar (String.ofList text) plain (tag.filter (· ≠ "!"))
    | some .openSequence, _, _ =>
      advance
      return .sequence (← bracketItems fuel true)
    | some .openMapping, _, _ =>
      advance
      return .mapping (← bracketPairs fuel true)
    | some .blockSequence, true, _ =>
      advance
      return .sequence (← blockItems fuel)
    | some .blockMapping, true, _ =>
      advance
      return .mapping (← blockPairs fuel)
    | _, _, _ => if anchored || tag.isSome then return .scalar "" true tag else failure

/-- A node, or an empty one before one of these words. -/
def nodeUnless : Nat → Bool → Bool → List Token → Read Node
  | 0, _, _, _ => failure
  | fuel + 1, block, flush, ends => do
    if (← peek).any ends.contains then return emptyNode else node fuel block flush

/-- The items of an indented sequence. -/
def blockItems : Nat → Read (List Node)
  | 0 => failure
  | fuel + 1 => do
    if ← accept .blockEnd then return []
    else if ← accept .dash then
      let item ← nodeUnless fuel true false [.dash, .blockEnd]
      return item :: (← blockItems fuel)
    else failure

/-- The items of a sequence that is not indented. -/
def flushItems : Nat → Read (List Node)
  | 0 => failure
  | fuel + 1 => do
    if ← accept .dash then
      let item ← nodeUnless fuel true false [.dash, .key, .value, .blockEnd]
      return item :: (← flushItems fuel)
    else return []

/-- The pairs of an indented mapping. -/
def blockPairs : Nat → Read (List (Node × Node))
  | 0 => failure
  | fuel + 1 => do
    if ← accept .blockEnd then return []
    else if ← accept .key then
      let ends : List Token := [.key, .value, .blockEnd]
      let key ← nodeUnless fuel true true ends
      let value ← if ← accept .value then nodeUnless fuel true true ends else pure emptyNode
      return (key, value) :: (← blockPairs fuel)
    else failure

/-- The items of a sequence in brackets, with a comma before each but the first. -/
def bracketItems : Nat → Bool → Read (List Node)
  | 0, _ => failure
  | fuel + 1, first => do
    if ← accept .closeSequence then return []
    unless first do separator
    if ← accept .closeSequence then return []
    else if ← accept .key then
      let pair ← bracketPair fuel
      return .mapping [pair] :: (← bracketItems fuel false)
    else
      let item ← node fuel false false
      return item :: (← bracketItems fuel false)

/-- The one pair of a mapping that is written without braces; the word that shows
its key to be empty is passed. -/
def bracketPair : Nat → Read (Node × Node)
  | 0 => failure
  | fuel + 1 => do
    let ends : List Token := [.comma, .closeSequence]
    let key ←
      if (← peek).any (Token.value :: ends).contains then
        advance
        pure emptyNode
      else node fuel false false
    let value ← if ← accept .value then nodeUnless fuel false false ends else pure emptyNode
    return (key, value)

/-- The pairs of a mapping in braces, with a comma before each but the first. -/
def bracketPairs : Nat → Bool → Read (List (Node × Node))
  | 0, _ => failure
  | fuel + 1, first => do
    if ← accept .closeMapping then return []
    unless first do separator
    if ← accept .closeMapping then return []
    else if ← accept .key then
      let key ← nodeUnless fuel false false [.value, .comma, .closeMapping]
      let value ←
        if ← accept .value then nodeUnless fuel false false [.comma, .closeMapping]
        else pure emptyNode
      return (key, value) :: (← bracketPairs fuel false)
    else
      let key ← node fuel false false
      return (key, emptyNode) :: (← bracketPairs fuel false)

end

/-! ## Documents -/

/-- The directives before a document: at most one version, and each handle once. -/
def directives : Bool → List Token → Option (List (List Char × List Char) × List Token)
  | versioned, .version major minor :: rest =>
    if versioned || major ≠ ['1'] || (minor ≠ ['1'] && minor ≠ ['2']) then none
    else directives true rest
  | versioned, .handle name start :: rest => do
    let (handles, rest) ← directives versioned rest
    if (handles.lookup name).isSome then none else some ((name, start) :: handles, rest)
  | _, rest => some ([], rest)

/-- The handles that need not be declared. -/
def ownHandles : List (List Char × List Char) :=
  [(['!'], ['!']), (['!', '!'], "tag:yaml.org,2002:".toList)]

/-- The root of a document: after its start it may be missing. -/
def root (started : Bool) : Read Node := do
  let words := (← get).words
  if started && (words.isEmpty || words.head?.any fun word =>
      match word with
      | .documentStart | .documentEnd | .version .. | .handle .. => true
      | _ => false) then
    return emptyNode
  else node (4 * words.length + 4) true false

end Read

/-- The document that words denote; there must be no second one. -/
def Document.ofTokens? (words : List Token) : Option Document := do
  if words = [] then return ⟨none, []⟩
  let (handles, rest) ← Read.directives false words
  let (started, rest) ←
    match rest with
    | .documentStart :: rest => some (true, rest)
    | _ => if rest.length = words.length then some (false, rest) else none
  let (root, r) ← (Read.root started).run ⟨rest, handles ++ Read.ownHandles, [], 0, []⟩
  let anchored := (r.anchored.mergeSort fun a b => b.place ≤ a.place).map fun a => (a.number, a.node)
  if (r.words.dropWhile (· == .documentEnd)) = [] then return ⟨some root, anchored⟩ else none

/-- The document that a text denotes: none when it is no YAML, or more than one
document. -/
def Document.parse? (text : String) : Option Document := do
  Document.ofTokens? (← Token.scan? (← prepare? text.toList))

end Responder.Yaml
