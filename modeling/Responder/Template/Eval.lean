/-
# Responder.Template.Eval -- the value of a pipeline on a record

A chain steps through objects: a missing key and null both give null from there
on, and stepping into any other value that is no object fails.  `field` never
fails on its object, only on a name that is no string.
-/
import Responder.Template.Pipeline
import Responder.Json.Printer

namespace Responder.Template

set_option autoImplicit false

/-- Why a pipeline has no value on a record. -/
inductive RenderFault where
  /-- A chain steps into a value of this shape, which has no fields. -/
  | noField (name : String) (shape : Json.Shape)
  /-- `field` is given a value of this shape as the name. -/
  | nameNotString (shape : Json.Shape)
  deriving DecidableEq

/-- A fault in words. -/
def RenderFault.message : RenderFault → String
  | .noField name shape => "can't evaluate field " ++ name ++ " in type " ++ shape.name
  | .nameNotString shape =>
    "error calling field: name must be a string, got " ++ shape.name

/-- The value that a chain of names leads to from a value, or null. -/
def chainValue : List String → Json → Except RenderFault Json
  | [], value => .ok value
  | name :: names, .object members =>
    chainValue names ((Json.Members.lookup name members).getD .null)
  | _ :: names, .null => chainValue names .null
  | name :: _, value => .error (.noField name value.shape)

/-- The field of a value that another value names, or null. -/
def fieldValue (object : Json) : Json → Except RenderFault Json
  | .string name => .ok ((object.field? name).getD .null)
  | name => .error (.nameNotString name.shape)

mutual

/-- The value of an operand. -/
def Operand.eval (dot : Json) : Operand → Except RenderFault Json
  | .dot => .ok dot
  | .chain names => chainValue names dot
  | .literal l => .ok l.json
  | .group p => p.eval dot

/-- The value of a pipeline. -/
def Pipeline.eval (dot : Json) : Pipeline → Except RenderFault Json
  | .value o => o.eval dot
  | .field object name => do
    let object ← object.eval dot
    let name ← name.eval dot
    fieldValue object name
  | .pipe p object => do
    let name ← p.eval dot
    let object ← object.eval dot
    fieldValue object name

end

/-- Floats in rendered text are positional for exponents from -4 to 5, whole
ones without a point; exponents have at least two digits. -/
def floatLayout : Numeral.Layout := ⟨-4, 6, false, 2⟩

/-- A value as it appears in rendered text: null as nothing, strings as they
are, everything but floats as compact JSON. -/
def valueChars : Json → List Char
  | .null => []
  | .string s => s.toList
  | .number (.float x) => floatLayout.text x.shortest
  | value => value.chars

end Responder.Template
