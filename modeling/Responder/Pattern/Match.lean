/-
# Responder.Pattern.Match -- searching a text

The places of a text are before its first character, between characters and
after the last.  A set of places is a number whose binary digits tell which
places it holds, and `reach` gives the places where a match that starts in a
set of places can end.  A text matches when some match starts anywhere.
-/
import Responder.Numeral.Power
import Responder.Pattern.Named
import Responder.Pattern.Regex

namespace Responder.Pattern

set_option autoImplicit false

/-- A text with the character before each of its places, if there is one. -/
structure Subject where
  chars : List Char

namespace Subject

/-- The set of places at which a property holds of the characters before and
after; `index` is the first place of the text, which follows `before`. -/
def placesFrom (p : Option Char → Option Char → Bool) (index : Nat) (before : Option Char) :
    List Char → Nat
  | [] => if p before none then 2 ^ index else 0
  | c :: rest =>
    (if p before (some c) then 2 ^ index else 0) ||| placesFrom p (index + 1) (some c) rest

/-- The places at which a property holds of the characters before and after. -/
def places (t : Subject) (p : Option Char → Option Char → Bool) : Nat :=
  placesFrom p 0 none t.chars

/-- All places. -/
def all (t : Subject) : Nat := 2 ^ (t.chars.length + 1) - 1

end Subject

/-- Whether a character belongs to words. -/
def isWord (unicode : Bool) (c : Option Char) : Bool :=
  c.any fun c => (Shorthand.word.set unicode).contains c.toNat

/-- Whether a condition holds between two characters. -/
def Look.holds (kind : Look) (before after : Option Char) : Bool :=
  match kind with
  | .start => before.isNone
  | .stop => after.isNone
  | .lineStart => before.isNone || before == some '\n'
  | .lineStop => after.isNone || after == some '\n'
  | .crlfLineStart =>
    before.isNone || before == some '\n' || (before == some '\r' && after != some '\n')
  | .crlfLineStop =>
    after.isNone || after == some '\r' || (after == some '\n' && before != some '\r')
  | .boundary u => isWord u before != isWord u after
  | .notBoundary u => isWord u before == isWord u after
  | .wordStart u => !isWord u before && isWord u after
  | .wordEnd u => isWord u before && !isWord u after
  | .wordStartHalf u => !isWord u before
  | .wordEndHalf u => !isWord u after

/-- A step repeated `n` times, or until it changes nothing. -/
def iterate (f : Nat → Nat) : Nat → Nat → Nat
  | 0, places => places
  | n + 1, places => if f places = places then places else iterate f n (f places)

/-- The places behind a character of a set, from places before it. -/
def Subject.past (t : Subject) (holds : Char → Bool) (places : Nat) : Nat :=
  (places &&& t.places fun _ after => after.any holds) <<< 1

mutual

/-- The places where a match that starts in a set of places can end. -/
def Regex.reach (t : Subject) : Regex → Nat → Nat
  | .empty, places => places
  | .literal text, places => text.foldl (fun places c => t.past (· == c) places) places
  | .chars set, places => t.past (fun c => set.contains c.toNat) places
  | .look kind, places => places &&& t.places kind.holds
  | .capture body, places => body.reach t places
  | .concat items, places => Regex.reachAll t items places
  | .alternation branches, places => Regex.reachAny t branches places
  | .repetition least most body, places =>
    let begun := iterate (body.reach t) least places
    let more (ends : Nat) : Nat := ends ||| body.reach t ends
    match most with
    | some n => iterate more (n - least) begun
    | none => iterate more (t.chars.length + 1) begun

/-- The places where matches of several expressions one after another can end. -/
def Regex.reachAll (t : Subject) : List Regex → Nat → Nat
  | [], places => places
  | item :: rest, places => Regex.reachAll t rest (item.reach t places)

/-- The places where a match of one of several expressions can end. -/
def Regex.reachAny (t : Subject) : List Regex → Nat → Nat
  | [], _ => 0
  | branch :: rest, places => branch.reach t places ||| Regex.reachAny t rest places

end

/-- Whether a match starts anywhere in a text. -/
def Regex.isMatch (r : Regex) (text : String) : Bool :=
  let t : Subject := ⟨text.toList⟩
  r.reach t t.all != 0

end Responder.Pattern
