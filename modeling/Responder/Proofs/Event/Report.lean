/-
# Responder.Proofs.Event.Report -- events that are written are read again

A report is an array of objects (`parseReport_eq_ok_iff`).  Each event of a report
that was read nests one container less than the reader allows, so its text can stand
alone and in a report again.  A program gets this text and no other as its input
(`eq_compact_of_feeds`), and both ways of reading an event give the one that it was
written from, as does a report made of such inputs (`report_survives`).
-/
import Responder.Proofs.Action.Effect
import Responder.Proofs.Action.Scripted
import Responder.Proofs.Json.Nesting
import Responder.Proofs.Json.NumberText

namespace Responder.Event

set_option autoImplicit false

open Responder.Action (Program Situation)
open Json (Writable maxDepth)

/-! ## Reports -/

theorem ofJson_eq_ok_iff {value : Json} {event : Event} : ofJson value = .ok event ↔ value = event.json := by
  obtain ⟨members⟩ := event
  cases value <;> simp [ofJson, json]

/-- A report is read if and only if its text is an array of objects, and the events are these. -/
theorem parseReport_eq_ok_iff {text : String} {events : List Event} :
    parseReport text = .ok events ↔ Json.parse? text = some (.array (events.map json)) := by
  have items (values : List Json) : values.mapM ofJson = .ok events ↔ values = events.map json := by
    rw [mapM_eq_ok_iff, ← List.forall₂_eq_eq_eq, List.forall₂_map_right_iff]
    simp only [ofJson_eq_ok_iff]
  unfold parseReport
  cases Json.parse? text with
  | none => simp
  | some value => cases value <;> simp [items]

/-! ## Texts of events -/

theorem ofText_compact {event : Event} (writable : Writable maxDepth event.json) :
    ofText event.json.compact = .ok event := by
  rw [ofText, writable.parse?_compact]
  rfl

/-- The text of an event is read as this event also where its first word must open an object. -/
theorem read?_compact {event : Event} (writable : Writable maxDepth event.json) :
    read? event.json.compact = some event := by
  have ends : Json.NumberEnds [] := fun c none => by cases none
  have scanned := writable.shows [] ends
  have read := writable.delivers [] [] (Nat.zero_add _).le
  rw [List.append_nil, Json.Token.scan, Option.map_some, List.append_nil] at scanned
  rw [List.append_nil] at read
  rw [read?, Json.compact, String.toList_ofList, scanned]
  -- past the bracket the reader goes on as it does where it may read any value
  have opened : Json.Reader.run (.firstKey []) event.json.words.tail = some (.finished event.json) := read
  simp only [json, Json.words, List.tail_cons] at opened ⊢
  simp only [Option.bind_eq_bind, Option.bind_some, opened]
  rfl

theorem ofList_itemChars (items : List Json) :
    String.ofList (Json.itemChars items) = ",".intercalate (items.map Json.compact) := by
  induction items with
  | nil => rfl
  | cons item rest ih =>
      cases rest with
      | nil => rw [Json.itemChars, Json.moreItemChars, List.append_nil, List.map_singleton,
          String.intercalate_singleton, Json.compact]
      | cons other rest =>
          have whole : Json.itemChars (item :: other :: rest) =
              item.chars ++ [','] ++ Json.itemChars (other :: rest) := by
            rw [List.append_assoc]
            rfl
          rw [whole, String.ofList_append, String.ofList_append, ih]
          exact String.intercalate_cons_cons.symm

/-- The compact text of items is made of theirs, with commas between them. -/
theorem compact_array (items : List Json) :
    (Json.array items).compact = "[" ++ ",".intercalate (items.map Json.compact) ++ "]" := by
  have whole : (Json.array items).chars = ['['] ++ Json.itemChars items ++ [']'] := rfl
  rw [Json.compact, whole, String.ofList_append, String.ofList_append, ofList_itemChars]

/-! ## Inputs of programs -/

/-- Whether carrying out a program for an event comes to starting it with this input, in every situation. -/
def Feeds (program : Program) (event : Event) (input : String) : Prop :=
  ∃ path args, ∀ (σ : Type) (services : Host.Services σ) (s : Situation σ),
    Action.execute services (.exec program) event s = Action.start services ⟨path, args, input⟩ s

theorem feeds_compact {program : Program} {event : Event} {args : List String}
    (rendered : List.Forall₂ (fun template arg => template.render event = .ok arg) program.args args) :
    Feeds program event event.json.compact := by
  refine ⟨program.path, args, fun σ services s => ?_⟩
  rw [Action.execute, Action.effect_eq_ok_iff.2 (.exec rendered)]
  rfl

/-- A program gets the compact text of the event and nothing else. -/
theorem eq_compact_of_feeds {program : Program} {event : Event} {input : String}
    (feeds : Feeds program event input) : input = event.json.compact := by
  obtain ⟨path, args, started⟩ := feeds
  -- a host that logs what is started, and lets it end well, tells the input
  let s : Situation Host.Script := ⟨.unlimited, ⟨[], [], [], []⟩⟩
  have ending : s.world.nextEnding =
      .started true (.comes (.ok ()) false) (.comes (.ok (.ofCode 0)) false) := rfl
  have told (command : Host.Command) : Action.start (Host.Script.services fun _ => .ok ()) command s =
      (.ok (), ⟨.unlimited, Action.launched command true s.world⟩) :=
    Action.start_ended rfl rfl .written ending
  have same := started Host.Script (Host.Script.services fun _ => .ok ()) s
  rw [told, Action.execute] at same
  cases asked : (Action.exec program).effect event with
  | error e =>
      rw [asked] at same
      cases same
  | ok effect =>
      rw [asked] at same
      cases Action.effect_eq_ok_iff.1 asked with
      | exec rendered =>
          have logs := congrArg (fun ended => ended.2.world.log) ((told _).symm.trans same)
          cases logs
          rfl

/-! ## The trip -/

/-- What is known of a report's events: alone and together their texts can be read. -/
theorem writable_of_parseReport {text : String} {events : List Event} (parsed : parseReport text = .ok events)
    (floats : ∀ event ∈ events, ∀ x ∈ event.json.floats,
      Json.parse? (Json.number (.float x)).compact = some (.number (.float x))) :
    Writable maxDepth (.array (events.map json)) := by
  refine Json.formed_of_parse? (parseReport_eq_ok_iff.1 parsed) fun x inside => ?_
  obtain ⟨item, member, here⟩ := Json.mem_itemFloats.1 inside
  obtain ⟨event, listed, rfl⟩ := List.mem_map.1 member
  exact Json.readsBack_float (floats event listed x here)

/-- An event of a report has room for one container more. -/
theorem writable_of_mem {events : List Event} (report : Writable maxDepth (.array (events.map json)))
    {event : Event} (member : event ∈ events) : Writable maxDepth event.json := by
  cases report with
  | array each => exact (each event.json (List.mem_map_of_mem member)).succ

/-- **Events survive the trip through a program's input.**  Of a report that was read, with any values
at any depth, as long as the text of each of its floats is read as this float: the input that a program
gets for an event is read as this event, both as an object from the first word on and as a value that
is then taken for an event; and the inputs for all events in order, as the items of an array, are a
report of the same events. -/
theorem report_survives {text : String} {events : List Event} (parsed : parseReport text = .ok events)
    (floats : ∀ event ∈ events, ∀ x ∈ event.json.floats,
      Json.parse? (Json.number (.float x)).compact = some (.number (.float x))) :
    (∀ event ∈ events, ∀ (program : Program) (input : String), Feeds program event input →
      read? input = some event ∧ ofText input = .ok event) ∧
    ∀ inputs : List String, List.Forall₂ (fun event input => ∃ program, Feeds program event input) events inputs →
      parseReport ("[" ++ ",".intercalate inputs ++ "]") = .ok events := by
  have report := writable_of_parseReport parsed floats
  constructor
  · intro event member program input feeds
    have writable := writable_of_mem report member
    rw [eq_compact_of_feeds feeds]
    exact ⟨read?_compact writable, ofText_compact writable⟩
  · intro inputs fed
    have texts : (events.map fun event => event.json.compact) = inputs := by
      rw [← List.forall₂_eq_eq_eq, List.forall₂_map_left_iff]
      exact fed.imp fun _ _ ⟨_, feeds⟩ => (eq_compact_of_feeds feeds).symm
    have whole := report.parse?_compact
    rw [compact_array, List.map_map] at whole
    rw [← texts]
    exact parseReport_eq_ok_iff.2 whole

/-- A repeated key, escapes, an integer apart from the same number as a float, a zero with a sign, and
integers at both limits: the text of the event is another, and is read as the same event. -/
theorem report_survives_repeated :
    let text := "[ \x7b\"id\":\"B\", \"n\":[1, 1.0, -0, 18446744073709551615, -9223372036854775808], " ++
      "\"id\":\"A\\u00e9\\n\"\x7d, \x7b\x7d ]"
    let input := "\x7b\"id\":\"Aé\\n\",\"n\":[1,1.0,-0.0,18446744073709551615,-9223372036854775808]\x7d"
    ∃ event empty, parseReport text = .ok [event, empty] ∧ Feeds ⟨"p", []⟩ event input ∧
      read? input = some event ∧ ofText input = .ok event ∧
      parseReport ("[" ++ ",".intercalate [input, "\x7b\x7d"] ++ "]") = .ok [event, empty] := by
  intro text input
  let one : Numeral.Binary64 := ⟨false, 2 ^ 52, -52, by decide⟩
  have read : (parseReport text).map (List.map fun event => (event.json.compact, event.json.floats)) =
      .ok [(input, [one, .zero true]), ("\x7b\x7d", [])] := by decide +kernel
  have back : ∀ x ∈ [one, .zero true], Json.parse? (Json.number (.float x)).compact = some (.number (.float x)) := by
    intro x among
    rcases List.mem_pair.1 among with rfl | rfl
    · have shown : (Json.number (.float one)).compact = "1.0" := by decide +kernel
      rw [shown]
      with_unfolding_all rfl
    · with_unfolding_all rfl
  obtain ⟨events, parsed, same⟩ := map_eq_ok_iff.1 read
  obtain ⟨event, rest, rfl, first, same⟩ := List.map_eq_cons_iff.1 same
  obtain ⟨empty, rest, rfl, second, same⟩ := List.map_eq_cons_iff.1 same
  obtain rfl := List.map_eq_nil_iff.1 same
  obtain ⟨shown, numbers⟩ := Prod.mk.inj first
  obtain ⟨shownEmpty, noNumbers⟩ := Prod.mk.inj second
  have fed : Feeds ⟨"p", []⟩ event input := shown ▸ feeds_compact .nil
  have fedEmpty : Feeds ⟨"p", []⟩ empty "\x7b\x7d" := shownEmpty ▸ feeds_compact .nil
  have floats : ∀ listed ∈ [event, empty], ∀ x ∈ listed.json.floats,
      Json.parse? (Json.number (.float x)).compact = some (.number (.float x)) := by
    intro listed member x inside
    rcases List.mem_pair.1 member with rfl | rfl
    · exact back x (numbers ▸ inside)
    · rw [noNumbers] at inside
      cases inside
  obtain ⟨alone, together⟩ := report_survives parsed floats
  obtain ⟨whole, taken⟩ := alone event List.mem_cons_self ⟨"p", []⟩ input fed
  exact ⟨event, empty, parsed, fed, whole, taken, together _ (.cons ⟨_, fed⟩ (.cons ⟨_, fedEmpty⟩ .nil))⟩

end Responder.Event
