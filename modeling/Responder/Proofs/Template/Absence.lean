/-
# Responder.Proofs.Template.Absence -- to a template null is no value

A chain goes on from null as it does from a missing key, and `field` finds null where
it finds nothing.  So an event tells a template the same with and without its null
members: a pipeline has the same value, stripped in the same way, or the same fault
(`Pipeline.eval_strip`), since the shapes that faults name and the strings that name
fields are left as they are.  Hence errors stay the same, and so does the text of a
template that prints no object or array.
-/
import Responder.Proofs.Event.Report
import Responder.Proofs.Json.Strip
import Responder.Proofs.Template.Rendering

namespace Responder

set_option autoImplicit false

/-- An event without the members of objects, at any depth, whose value is null. -/
def Event.strip (event : Event) : Event := ⟨Json.stripMembers event.members⟩

namespace Event

/-- Keys are apart in every event of a report. -/
theorem keysApart_of_parseReport {text : String} {events : List Event} (parsed : parseReport text = .ok events)
    {event : Event} (member : event ∈ events) : event.json.KeysApart := by
  cases Json.keysApart_of_parse? (parseReport_eq_ok_iff.1 parsed) with
  | array each => exact each _ (List.mem_map_of_mem member)

theorem json_strip (event : Event) : event.strip.json = event.json.strip := rfl

theorem stringField?_eq (name : String) (value : Json) :
    stringField? name value = ((value.field? name).getD .null).string? := by
  unfold stringField?
  cases value.field? name <;> rfl

theorem stringField?_strip {value : Json} (apart : value.KeysApart) (name : String) :
    stringField? name value.strip = stringField? name value := by
  rw [stringField?_eq, stringField?_eq, Json.getD_field?_strip apart, Json.string?_strip]

/-- The id of the rule is not read from null. -/
theorem ruleId_strip {event : Event} (apart : event.json.KeysApart) : event.strip.ruleId = event.ruleId := by
  have inside := apart.getD_field? "cre"
  unfold ruleId get?
  rw [json_strip, Json.getD_field?_strip apart]
  simp only [stringField?_strip apart, stringField?_strip inside]

end Event

namespace Template

/-! ## Pipelines -/

theorem fieldValue_strip {object : Json} (apart : object.KeysApart) (name : Json) :
    fieldValue object.strip name.strip = (fieldValue object name).map Json.strip := by
  cases name with
  | string s => exact congrArg Except.ok (Json.getD_field?_strip apart s)
  | _ => rfl

theorem chainValue_strip {value : Json} (apart : value.KeysApart) (names : List String) :
    chainValue names value.strip = (chainValue names value).map Json.strip := by
  induction names generalizing value with
  | nil => rfl
  | cons name names ih =>
      cases value with
      | object members =>
          have next := Json.getD_field?_strip apart name
          show chainValue names (((Json.object members).strip.field? name).getD .null) = _
          rw [next]
          exact ih (apart.getD_field? name)
      | null => exact ih .null
      | bool b | number n | string s | array items => rfl

theorem Literal.strip_json (l : Literal) : l.json.strip = l.json := by cases l <;> rfl

theorem keysApart_of_fieldValue {object name value : Json} (apart : object.KeysApart)
    (found : fieldValue object name = .ok value) : value.KeysApart := by
  cases name with
  | string s =>
      cases found
      exact apart.getD_field? s
  | _ => cases found

theorem keysApart_of_chainValue {names : List String} {value reached : Json} (apart : value.KeysApart)
    (led : chainValue names value = .ok reached) : reached.KeysApart := by
  induction names generalizing value with
  | nil =>
      cases led
      exact apart
  | cons name names ih =>
      cases value with
      | object members => exact ih (apart.getD_field? name) led
      | null => exact ih .null led
      | bool b | number n | string s | array items => cases led

theorem Literal.keysApart_json (l : Literal) : l.json.KeysApart := by
  cases l with
  | text s => exact .string s
  | number n => exact .number n
  | bool b => exact .bool b
  | nil => exact .null

variable {dot : Json}

mutual

theorem Operand.keysApart_of_eval (apart : dot.KeysApart) : {o : Operand} → {value : Json} →
    o.eval dot = .ok value → value.KeysApart
  | .dot, _, evaluated => by
      cases evaluated
      exact apart
  | .chain _, _, evaluated => keysApart_of_chainValue apart evaluated
  | .literal l, _, evaluated => by
      cases evaluated
      exact l.keysApart_json
  | .group p, _, evaluated => p.keysApart_of_eval apart evaluated

/-- What a pipeline finds on a value whose keys are apart has its keys apart. -/
theorem Pipeline.keysApart_of_eval (apart : dot.KeysApart) : {p : Pipeline} → {value : Json} →
    p.eval dot = .ok value → value.KeysApart
  | .value o, _, evaluated => o.keysApart_of_eval apart evaluated
  | .field object name, _, evaluated => by
      obtain ⟨first, found, later⟩ := bind_eq_ok_iff.1 evaluated
      obtain ⟨named, -, calling⟩ := bind_eq_ok_iff.1 later
      exact keysApart_of_fieldValue (object.keysApart_of_eval apart found) calling
  | .pipe p object, _, evaluated => by
      obtain ⟨named, -, later⟩ := bind_eq_ok_iff.1 evaluated
      obtain ⟨first, found, calling⟩ := bind_eq_ok_iff.1 later
      exact keysApart_of_fieldValue (object.keysApart_of_eval apart found) calling

end

mutual

theorem Operand.eval_strip (apart : dot.KeysApart) : (o : Operand) →
    o.eval dot.strip = (o.eval dot).map Json.strip
  | .dot => rfl
  | .chain names => chainValue_strip apart names
  | .literal l => congrArg Except.ok l.strip_json.symm
  | .group p => p.eval_strip apart

/-- **A pipeline has the same value, stripped, or the same fault** on a value without its null members. -/
theorem Pipeline.eval_strip (apart : dot.KeysApart) : (p : Pipeline) →
    p.eval dot.strip = (p.eval dot).map Json.strip
  | .value o => o.eval_strip apart
  | .field object name => by
      rw [Pipeline.eval, Pipeline.eval, object.eval_strip apart, name.eval_strip apart]
      cases found : object.eval dot with
      | error fault => rfl
      | ok first =>
          cases name.eval dot with
          | error fault => rfl
          | ok named => exact fieldValue_strip (object.keysApart_of_eval apart found) named
  | .pipe p object => by
      rw [Pipeline.eval, Pipeline.eval, p.eval_strip apart, object.eval_strip apart]
      cases p.eval dot with
      | error fault => rfl
      | ok named =>
          cases found : object.eval dot with
          | error fault => rfl
          | ok first => exact fieldValue_strip (object.keysApart_of_eval apart found) named

end

theorem Pipeline.eval_strip_eq_error_iff (apart : dot.KeysApart) (p : Pipeline) (fault : RenderFault) :
    p.eval dot.strip = .error fault ↔ p.eval dot = .error fault := by
  rw [p.eval_strip apart]
  cases p.eval dot <;> simp [Except.map]

theorem Pipeline.exists_eval_strip_iff (apart : dot.KeysApart) (p : Pipeline) :
    (∃ value, p.eval dot.strip = .ok value) ↔ ∃ value, p.eval dot = .ok value := by
  rw [p.eval_strip apart]
  cases p.eval dot <;> simp [Except.map]

/-! ## Templates -/

/-- Whether the value of a pipeline, if it has one, is no object or array. -/
def Pipeline.Plain (dot : Json) (p : Pipeline) : Prop :=
  ∀ value, p.eval dot = .ok value → value.shape ≠ .array ∧ value.shape ≠ .object

instance (dot : Json) (p : Pipeline) : Decidable (p.Plain dot) :=
  match evaluated : p.eval dot with
  | .ok value => decidable_of_iff (value.shape ≠ .array ∧ value.shape ≠ .object) (by
      simp [Pipeline.Plain, evaluated])
  | .error _ => isTrue (by simp [Pipeline.Plain, evaluated])

/-- Whether no action of a template evaluates to an object or an array on an event. -/
def PrintsPlain (t : Template) (event : Event) : Prop :=
  ∀ action ∈ t.nodes.filterMap Node.action?, action.1.Plain event.json

instance (t : Template) (event : Event) : Decidable (t.PrintsPlain event) :=
  inferInstanceAs (Decidable (∀ action ∈ t.nodes.filterMap Node.action?, action.1.Plain event.json))

/-- The text of a node stays the same, or its error, unless it prints an object or array. -/
theorem renderNode_strip (t : Template) (apart : dot.KeysApart) {node : Node}
    (plain : ∀ action ∈ node.action?, action.1.Plain dot) :
    t.renderNode dot.strip node = t.renderNode dot node := by
  cases node with
  | text chars => rfl
  | action p place =>
      rw [renderNode, renderNode, p.eval_strip apart]
      cases evaluated : p.eval dot with
      | error fault => rfl
      | ok value =>
          obtain ⟨noArray, noObject⟩ := plain (p, place) rfl value evaluated
          show Except.ok (valueChars value.strip) = .ok (valueChars value)
          rw [Json.strip_eq_self noArray noObject]

/-- **Null and absent are the same to a template.**  Of an event in which no object has two members
of one key, as in every event of a report (`Event.keysApart_of_parseReport`), every template tells the
same with its null members and without them:

* every pipeline has the same value but for its null members, or fails with the same fault;
* every template fails with the same error, on the same line;
* it renders as the same text, unless it prints an object or an array;
* and the id of the rule is the same. -/
theorem null_is_absent {event : Event} (apart : event.json.KeysApart) :
    (∀ p : Pipeline, p.eval event.strip.json = (p.eval event.json).map Json.strip) ∧
    (∀ t : Template,
      (∀ e, t.render event.strip = .error e ↔ t.render event = .error e) ∧
      (t.PrintsPlain event → t.render event.strip = t.render event)) ∧
    event.strip.ruleId = event.ruleId := by
  refine ⟨Pipeline.eval_strip apart, fun t => ⟨fun e => ?_, fun plain => ?_⟩, Event.ruleId_strip apart⟩
  · simp only [render_eq_error_iff, Event.json_strip, Pipeline.eval_strip_eq_error_iff apart,
      Pipeline.exists_eval_strip_iff apart]
  · have same : ∀ node ∈ t.nodes, t.renderNode event.strip.json node = t.renderNode event.json node :=
      fun node inside => renderNode_strip t apart fun action made =>
        plain action (List.mem_filterMap.2 ⟨node, inside, made⟩)
    rw [render, render, mapM_congr same]

/-- Null stands under a key that is repeated, inside an item, and where the rule's id is read first: the
text of one template and the error of another stay the same, and only that of a list changes. -/
theorem null_is_absent_nested :
    let text := "[\x7b\"cre\": \x7b\"id\": null, \"ID\": \"R-1\"\x7d, \"n\": \"cre\", \"k\": 1, \"k\": null, " ++
      "\"l\": [null, \x7b\"a\": null, \"b\": \x7b\"c\": null\x7d\x7d]\x7d]"
    let stripped := "\x7b\"cre\":\x7b\"ID\":\"R-1\"\x7d,\"l\":[null,\x7b\"b\":\x7b\x7d\x7d],\"n\":\"cre\"\x7d"
    let source := "[\x7b\x7b .k.deeper \x7d\x7d|\x7b\x7b \"ID\" | field (field . .n) \x7d\x7d|" ++
      "\x7b\x7b .cre.id \x7d\x7d]"
    let flawed := "\x7b\x7b .k.deeper \x7d\x7d\n\x7b\x7b field . .k \x7d\x7d"
    ∃ event t u, Event.parseReport text = .ok [event] ∧ event.json.KeysApart ∧
      compile "t" source = .ok t ∧ compile "u" flawed = .ok u ∧
      event.strip.json.compact = stripped ∧ event.strip.ruleId = "R-1" ∧
      t.PrintsPlain event ∧ t.render event = .ok "[|R-1|]" ∧ t.render event.strip = .ok "[|R-1|]" ∧
      u.render event = .error (.render "u" 2 (.nameNotString .null)) ∧
      u.render event.strip = .error (.render "u" 2 (.nameNotString .null)) ∧
      ((Pipeline.value (.chain ["l"])).eval event.json).map Json.compact =
        .ok "[null,\x7b\"a\":null,\"b\":\x7b\"c\":null\x7d\x7d]" ∧
      ((Pipeline.value (.chain ["l"])).eval event.strip.json).map Json.compact =
        .ok "[null,\x7b\"b\":\x7b\x7d\x7d]" := by
  intro text stripped source flawed
  let list : Pipeline := .value (.chain ["l"])
  have read : (Event.parseReport text).map (List.map fun event => (event.strip.json.compact, event.ruleId)) =
      .ok [(stripped, "R-1")] := by decide +kernel
  have rendered : (Event.parseReport text).map (List.map fun event => (compile "t" source).map fun t =>
      (decide (t.PrintsPlain event), t.render event)) = .ok [.ok (true, .ok "[|R-1|]")] := by
    decide +kernel
  have refused : (Event.parseReport text).map (List.map fun event => (compile "u" flawed).map fun u =>
        u.render event) =
      .ok [.ok (.error (.render "u" 2 (.nameNotString .null)))] := by decide +kernel
  have listed : (Event.parseReport text).map (List.map fun event => ((list.eval event.json).map Json.compact,
        ((list.eval event.json).map Json.strip).map Json.compact)) =
      .ok [(.ok "[null,\x7b\"a\":null,\"b\":\x7b\"c\":null\x7d\x7d]", .ok "[null,\x7b\"b\":\x7b\x7d\x7d]")] := by
    decide +kernel
  obtain ⟨events, parsed, told⟩ := map_eq_ok_iff.1 read
  rw [parsed] at rendered refused listed
  obtain ⟨event, none, rfl, first, nothing⟩ := List.map_eq_cons_iff.1 told
  obtain rfl := List.map_eq_nil_iff.1 nothing
  obtain ⟨t, compiled, prints⟩ := map_eq_ok_iff.1 (List.singleton_inj.1 (Except.ok.inj rendered))
  obtain ⟨u, compiledFlawed, failed⟩ := map_eq_ok_iff.1 (List.singleton_inj.1 (Except.ok.inj refused))
  obtain ⟨whole, some⟩ := Prod.mk.inj (List.singleton_inj.1 (Except.ok.inj listed))
  obtain ⟨shown, id⟩ := Prod.mk.inj first
  obtain ⟨plain, renders⟩ := Prod.mk.inj prints
  have apart : event.json.KeysApart := Event.keysApart_of_parseReport parsed List.mem_cons_self
  obtain ⟨pipelines, templates, sameId⟩ := null_is_absent apart
  have prints := of_decide_eq_true plain
  have same := (templates t).2 prints
  have sameError := ((templates u).1 _).2 failed
  rw [← pipelines list] at some
  exact ⟨event, t, u, parsed, apart, compiled, compiledFlawed, shown, sameId.trans id, prints, renders,
    same.trans renders, failed, sameError, whole, some⟩

end Template

end Responder
