/-
# Responder.Pattern.Size -- patterns that are too large

A pattern is compiled to an automaton over bytes and to one that reads texts
backwards, and neither may take more memory than `sizeLimit`.  Only a choice
between very many plain literals needs no automaton.  A state takes `stateSize`
bytes, and more for every way that leads out of it.  Sets of
characters take one state for every different set of ends that their encodings
have forwards, and one for every different start backwards.
-/
import Responder.Numeral.Power
import Responder.Pattern.ByteRange
import Responder.Pattern.Parser
import Responder.Pattern.Switches

namespace Responder.Pattern

set_option autoImplicit false

/-- The direction in which an automaton reads. -/
inductive Direction where
  | forward
  | backward
  deriving DecidableEq

/-- The greatest size of an automaton in bytes. -/
def sizeLimit : Nat := 10 * 2 ^ 20

/-- The size of a state. -/
def stateSize : Nat := 32

/-- The size of a way from one state to another without a condition. -/
def linkSize : Nat := 4

/-- The size of a way that a range of bytes opens. -/
def transitionSize : Nat := 8

/-! ## Literals -/

/-- The bytes of a literal in the order in which they are read. -/
def literalBytes (d : Direction) (text : List Char) : List Nat :=
  let bytes := (String.ofList text).toUTF8.toList.map UInt8.toNat
  match d with
  | .forward => bytes
  | .backward => bytes.reverse

/-- The words of a list up to each empty word, and those after the last. -/
def chunks : List (List Nat) → List (List (List Nat))
  | [] => [[]]
  | word :: rest =>
    match word, chunks rest with
    | [], more => [] :: more
    | _, chunk :: more => (word :: chunk) :: more
    | _, [] => [[word]]

/-- The first bytes of words, each once. -/
def firstBytes (words : List (List Nat)) : List Nat := (words.filterMap List.head?).eraseDups

/-- The size of the states that tell words apart; a state for words of which
some end here leads on between them in order. -/
def wordsSize : Nat → List (List Nat) → Nat
  | 0, _ => 0
  | depth + 1, words =>
    if words.all List.isEmpty then 0
    else
      let parts := chunks words
      let sizes := parts.map fun chunk =>
        let bytes := firstBytes chunk
        let own :=
          match bytes with
          | [] => 0
          | [_] => stateSize + linkSize
          | _ => stateSize + linkSize + bytes.length * transitionSize
        own + (bytes.map fun byte =>
          wordsSize depth ((chunk.filter fun word => word.head? == some byte).map List.tail)).foldl (· + ·) 0
      stateSize + (parts.length - 1) * linkSize + sizes.foldl (· + ·) 0

/-- The size of a choice between literals. -/
def literalsSize (d : Direction) (texts : List (List Char)) : Nat :=
  let words := texts.map (literalBytes d)
  stateSize + wordsSize ((words.map List.length).foldl max 0 + 1) words

/-! ## Sets -/

/-- The size of a set of characters. -/
def CharSet.size (d : Direction) (s : CharSet) : Nat :=
  if s.isAscii then 2 * stateSize + s.ranges.length * transitionSize
  else
    let sequences := ByteSequence.ofSet s
    match d with
    | .forward =>
      let states := (ByteSequence.endings 4 sequences).eraseDups
      stateSize + (states.map fun ends =>
        stateSize + (ByteSequence.groups ends).length * transitionSize).foldl (· + ·) 0
    | .backward =>
      (2 + ByteSequence.startsAfter [] sequences) * stateSize + sequences.length * linkSize

/-! ## Expressions -/

/-- The text of a literal. -/
def Regex.literal? : Regex → Option (List Char)
  | .literal text => some text
  | _ => none

/-- The size of a repetition of an expression of a size. -/
def repetitionSize (least : Nat) (most : Option Nat) (canBeEmpty : Bool) (size : Nat) : Nat :=
  let branch := stateSize + 2 * linkSize
  match least, most with
  | 0, none => if canBeEmpty then 2 * branch + stateSize + size else branch + size
  | n, none => n * size + branch
  | 0, some 1 => branch + size + stateSize
  | least, some most =>
    (if least = 0 then stateSize else least * size) +
      if least = most then 0 else stateSize + (most - least) * (branch + size)

mutual

/-- The size of an expression. -/
def Regex.size (d : Direction) : Regex → Nat
  | .empty | .look _ => stateSize
  | .literal text => (literalBytes d text).length * stateSize
  | .chars set => set.size d
  | .repetition least most body =>
    repetitionSize least most (body.leastLength?.all (· == 0)) (body.size d)
  | .capture body =>
    match d with
    | .forward => body.size d + 2 * stateSize
    | .backward => body.size d
  | .concat items => Regex.totalSize d items
  | .alternation branches =>
    match branches.mapM Regex.literal? with
    | some texts => literalsSize d texts
    | none => Regex.totalSize d branches + 2 * stateSize + branches.length * linkSize

/-- The size of several expressions. -/
def Regex.totalSize (d : Direction) : List Regex → Nat
  | [] => 0
  | r :: rest => r.size d + Regex.totalSize d rest

end

/-- The size of an automaton that finds an expression anywhere in a text. -/
def Regex.searchSize (d : Direction) (r : Regex) : Nat :=
  let anything := 3 * stateSize + 2 * linkSize + transitionSize
  anything + (Regex.capture r).size d + stateSize

/-- How many plain literals are looked for at once without an automaton. -/
def manyLiterals : Nat := 3000

/-- Whether an expression is a choice between so many plain literals. -/
def Regex.isManyLiterals : Regex → Bool
  | .alternation branches => manyLiterals ≤ branches.length && branches.all (·.literal?.isSome)
  | _ => false

/-- Whether the automata of an expression, if it needs any, are not too large. -/
def Regex.fits (r : Regex) : Bool :=
  r.isManyLiterals || (r.searchSize .forward ≤ sizeLimit && r.searchSize .backward ≤ sizeLimit)

/-- The regular expression of a text: none when it is no pattern, or one that is
too large. -/
def Regex.parse? (text : String) : Option Regex := do
  let ast ← Ast.parse? text.toList
  let (r, _) ← ast.regex? .initial
  if r.fits then some r else none

end Responder.Pattern
