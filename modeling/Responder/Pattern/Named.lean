/-
# Responder.Pattern.Named -- sets of characters by name

The classes with a letter of their own, the ASCII classes, and the properties of
the Unicode standard.  Names of properties and of their values are compared
without case, blanks, hyphens and underscores.
-/
import Responder.Pattern.Age
import Responder.Pattern.Category
import Responder.Pattern.CharSet
import Responder.Pattern.Property
import Responder.Pattern.Script
import Responder.Pattern.ScriptExtension
import Responder.Pattern.Segmentation

namespace Responder.Pattern

set_option autoImplicit false

/-- A table of named sets: in each row the names, and the code points. -/
abbrev NamedSets := List (List String × String)

namespace NamedSets

/-- The set of a name. -/
def find? (table : NamedSets) (name : String) : Option CharSet :=
  (List.find? (fun row => row.1.contains name) table).map fun row => .ofTable row.2

/-- The union of the sets of all rows. -/
def unionAll (table : NamedSets) : CharSet := .unionAll (table.map fun row => .ofTable row.2)

/-- The union of the sets of several names. -/
def unionOf (table : NamedSets) (names : List String) : CharSet :=
  unionAll (table.filter fun row => names.any row.1.contains)

end NamedSets

/-! ## Shorthands -/

/-- The classes with a letter of their own: `\d`, `\s` and `\w`. -/
inductive Shorthand where
  | digit
  | space
  | word
  deriving DecidableEq

/-- The set of decimal digits. -/
def digitSet : CharSet := NamedSets.unionOf categories ["nd"]

/-- The set of white space. -/
def spaceSet : CharSet := NamedSets.unionOf properties ["whitespace"]

/-- The characters that words are made of: letters, marks, decimal digits,
connecting punctuation, and the joiners. -/
def wordSet : CharSet :=
  (NamedSets.unionOf properties ["alphabetic", "joincontrol"]).union
    (NamedSets.unionOf categories ["mn", "mc", "me", "nd", "pc"])

/-! ## ASCII classes -/

/-- The classes written `[:name:]`. -/
inductive AsciiClass where
  | alnum | alpha | ascii | blank | cntrl | digit | graph | lower | print | punct | space | upper
  | word | xdigit
  deriving DecidableEq

/-- The class of a name. -/
def AsciiClass.ofName? : String → Option AsciiClass
  | "alnum" => some .alnum
  | "alpha" => some .alpha
  | "ascii" => some .ascii
  | "blank" => some .blank
  | "cntrl" => some .cntrl
  | "digit" => some .digit
  | "graph" => some .graph
  | "lower" => some .lower
  | "print" => some .print
  | "punct" => some .punct
  | "space" => some .space
  | "upper" => some .upper
  | "word" => some .word
  | "xdigit" => some .xdigit
  | _ => none

/-- The set of an ASCII class. -/
def AsciiClass.set (name : AsciiClass) : CharSet :=
  .ofRanges <|
    match name with
    | .alnum => [(48, 57), (65, 90), (97, 122)]
    | .alpha => [(65, 90), (97, 122)]
    | .ascii => [(0, 127)]
    | .blank => [(9, 9), (32, 32)]
    | .cntrl => [(0, 31), (127, 127)]
    | .digit => [(48, 57)]
    | .graph => [(33, 126)]
    | .lower => [(97, 122)]
    | .print => [(32, 126)]
    | .punct => [(33, 47), (58, 64), (91, 96), (123, 126)]
    | .space => [(9, 13), (32, 32)]
    | .upper => [(65, 90)]
    | .word => [(48, 57), (65, 90), (95, 95), (97, 122)]
    | .xdigit => [(48, 57), (65, 70), (97, 102)]

/-- The set of a shorthand class. -/
def Shorthand.set (unicode : Bool) : Shorthand → CharSet
  | .digit => if unicode then digitSet else AsciiClass.digit.set
  | .space => if unicode then spaceSet else AsciiClass.space.set
  | .word => if unicode then wordSet else AsciiClass.word.set

/-! ## Properties -/

/-- A name as tables list it: ASCII letters in lower case, without blanks,
hyphens, underscores and a leading `is`. -/
def normalName (name : String) : String :=
  let cs := name.toList
  let strip : Bool :=
    match cs with
    | a :: b :: _ => (a == 'i' || a == 'I') && (b == 's' || b == 'S')
    | _ => false
  let kept := ((if strip then cs.drop 2 else cs).filter fun c =>
    c.toNat < 128 && c != ' ' && c != '_' && c != '-').map Char.toLower
  if strip && kept == ['c'] then "isc" else String.ofList kept

/-- Names for unions of general categories. -/
def categoryGroups : List (List String × List String) := [
  (["l", "letter"], ["lu", "ll", "lt", "lm", "lo"]),
  (["lc", "casedletter"], ["lu", "ll", "lt"]),
  (["m", "mark", "combiningmark"], ["mn", "mc", "me"]),
  (["n", "number"], ["nd", "nl", "no"]),
  (["p", "punctuation", "punct"], ["pc", "pd", "ps", "pe", "pi", "pf", "po"]),
  (["s", "symbol"], ["sm", "sc", "sk", "so"]),
  (["z", "separator"], ["zs", "zl", "zp"]),
  (["c", "other"], ["cc", "cf", "cn", "co"])]

/-- The general category, or union of them, of a normal name. -/
def categoryNamed? (name : String) : Option CharSet :=
  if name = "any" then some .all
  else if name = "ascii" then some AsciiClass.ascii.set
  else if name = "assigned" then some (NamedSets.unionOf categories ["cn"]).compl
  else
    match categoryGroups.find? fun row => row.1.contains name with
    | some row => some (NamedSets.unionOf categories row.2)
    | none => NamedSets.find? categories name

/-- The characters that are given to other scripts than their own one. -/
def sharedSet : CharSet := NamedSets.unionAll scriptExtensions

/-- The characters that are used in the script of a normal name: its own ones
save those that are given away, and those that are given to it. -/
def scriptExtensionNamed? (name : String) : Option CharSet := do
  let row ← scripts.find? fun row => row.1.contains name
  return ((CharSet.ofTable row.2).diff sharedSet).union
    (NamedSets.unionOf scriptExtensions row.1)

/-- The characters of a version of the standard, by its normal name: the new
ones of this and of earlier versions. -/
def ageNamed? (name : String) : Option CharSet :=
  (ages.findIdx? fun row => row.1.contains name).map fun i => NamedSets.unionAll (ages.take (i + 1))

/-- What a pattern names in `\p`. -/
inductive PropertyQuery where
  | named (name : String)
  | valued (name value : String) (equal : Bool)

namespace PropertyQuery

/-- The set of a name: a binary property, then a general category, then a
script.  Three short names are categories although they look like something else. -/
def namedSet? (name : String) : Option CharSet :=
  let property :=
    if name = "cf" ∨ name = "sc" ∨ name = "lc" then none else NamedSets.find? properties name
  (property.or (categoryNamed? name)).or (NamedSets.find? scripts name)

/-- The set of a property's value. -/
def valuedSet? (name value : String) : Option CharSet :=
  if name = "gc" ∨ name = "generalcategory" then categoryNamed? value
  else if name = "sc" ∨ name = "script" then NamedSets.find? scripts value
  else if name = "scx" ∨ name = "scriptextensions" then scriptExtensionNamed? value
  else if name = "age" then ageNamed? value
  else if name = "gcb" ∨ name = "graphemeclusterbreak" then NamedSets.find? graphemeBreaks value
  else if name = "wb" ∨ name = "wordbreak" then NamedSets.find? wordBreaks value
  else if name = "sb" ∨ name = "sentencebreak" then NamedSets.find? sentenceBreaks value
  else none

/-- The set that a query names, before it is negated. -/
def set? : PropertyQuery → Option CharSet
  | named name => namedSet? (normalName name)
  | valued name value _ => valuedSet? (normalName name) (normalName value)

/-- Whether a query asks for the characters that its set does not hold. -/
def isNegated : PropertyQuery → Bool
  | named _ => false
  | valued _ _ equal => !equal

end PropertyQuery

end Responder.Pattern
