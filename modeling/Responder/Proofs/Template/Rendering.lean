/-
# Responder.Proofs.Template.Rendering -- a template that compiles fails on data only

The text of a template is the texts of its nodes in a row, and it fails where the
first action does whose pipeline has no value (`render_eq_ok_iff`,
`render_eq_error_iff`).  What is asked when a template is compiled is never asked
again: a rendering has no other error than this, and the line it names is that of
the braces which open that action (`render_fails_on_data_only`).
-/
import Responder.Proofs.Template.Evaluation
import Responder.Proofs.Template.Seam

namespace Responder.Template

set_option autoImplicit false

variable {t : Template} {event : Event} {dot : Json}

/-! ## What a fault says -/

/-- A fault in words, with the shapes that it can be about. -/
def RenderFault.Tells (fault : RenderFault) : Prop :=
  (∃ name shape, shape ≠ Json.Shape.null ∧ shape ≠ .object ∧ fault = .noField name shape ∧
      fault.message = "can't evaluate field " ++ name ++ " in type " ++ shape.name) ∨
    ∃ shape, shape ≠ Json.Shape.string ∧ fault = .nameNotString shape ∧
      fault.message = "error calling field: name must be a string, got " ++ shape.name

mutual

theorem Operand.Blames.tells : {o : Operand} → {fault : RenderFault} → o.Blames dot fault → fault.Tells
  | _, _, .chain _ present fieldless => .inl ⟨_, _, present, fieldless, rfl, rfl⟩
  | _, _, .group inside => inside.tells

theorem Pipeline.Blames.tells : {p : Pipeline} → {fault : RenderFault} → p.Blames dot fault → fault.Tells
  | _, _, .value inside | _, _, .fieldObject inside | _, _, .fieldName inside | _, _, .pipeObject inside =>
      inside.tells
  | _, _, .pipeName inside => inside.tells
  | _, _, .fieldNamed _ notString | _, _, .pipeNamed _ notString => .inr ⟨_, notString, rfl, rfl⟩

end

/-! ## Nodes -/

/-- What a node is on a record: its text, or that of its pipeline's value. -/
inductive Node.Shows (dot : Json) : Node → List Char → Prop where
  | text (chars : List Char) : Node.Shows dot (.text chars) chars
  | action {p : Pipeline} {value : Json} (place : Nat) (evaluated : p.eval dot = .ok value) :
      Node.Shows dot (.action p place) (valueChars value)

theorem renderNode_eq_ok_iff {node : Node} {chars : List Char} :
    t.renderNode dot node = .ok chars ↔ node.Shows dot chars := by
  constructor
  · intro shown
    cases node with
    | text cs =>
        cases shown
        exact .text _
    | action p place =>
        rw [renderNode] at shown
        cases evaluated : p.eval dot with
        | error fault => simp [evaluated] at shown
        | ok value =>
            rw [evaluated] at shown
            cases shown
            exact .action place evaluated
  · rintro (_ | ⟨place, evaluated⟩)
    · rfl
    · rw [renderNode, evaluated]

theorem renderNode_eq_error_iff {node : Node} {e : Error} :
    t.renderNode dot node = .error e ↔ ∃ p place fault, node = .action p place ∧
      p.eval dot = .error fault ∧ e = .render t.name (lineAt t.source place) fault := by
  constructor
  · intro failed
    cases node with
    | text cs => cases failed
    | action p place =>
        rw [renderNode] at failed
        cases evaluated : p.eval dot with
        | ok value => simp [evaluated] at failed
        | error fault =>
            rw [evaluated] at failed
            cases failed
            exact ⟨p, place, fault, rfl, evaluated, rfl⟩
  · rintro ⟨p, place, fault, rfl, evaluated, rfl⟩
    rw [renderNode, evaluated]

/-- A node has a text unless it is an action whose pipeline has no value. -/
theorem exists_shows_iff {node : Node} :
    (∃ chars, node.Shows dot chars) ↔
      ∀ p place, node = .action p place → ∃ value, p.eval dot = .ok value := by
  constructor
  · rintro ⟨chars, shown⟩ p place rfl
    cases shown with
    | action place evaluated => exact ⟨_, evaluated⟩
  · intro evaluates
    cases node with
    | text cs => exact ⟨cs, .text cs⟩
    | action p place =>
        obtain ⟨value, evaluated⟩ := evaluates p place rfl
        exact ⟨_, .action place evaluated⟩

/-! ## Templates -/

/-- The text of a template is the texts of its nodes in a row. -/
theorem render_eq_ok_iff {text : String} : t.render event = .ok text ↔
    ∃ texts, List.Forall₂ (Node.Shows event.json) t.nodes texts ∧ text = String.ofList texts.flatten := by
  have each (texts : List (List Char)) : t.nodes.mapM (t.renderNode event.json) = .ok texts ↔
      List.Forall₂ (Node.Shows event.json) t.nodes texts := by
    rw [mapM_eq_ok_iff]
    simp only [renderNode_eq_ok_iff]
  rw [render, bind_eq_ok_iff]
  constructor
  · rintro ⟨texts, shown, same⟩
    cases same
    exact ⟨texts, (each texts).1 shown, rfl⟩
  · rintro ⟨texts, shown, rfl⟩
    exact ⟨texts, (each texts).2 shown, rfl⟩

/-- A template fails where its first action does that has no value. -/
theorem render_eq_error_iff {e : Error} : t.render event = .error e ↔
    ∃ front p place back fault, t.nodes = front ++ .action p place :: back ∧
      (∀ q place', .action q place' ∈ front → ∃ value, q.eval event.json = .ok value) ∧
      p.eval event.json = .error fault ∧ e = .render t.name (lineAt t.source place) fault := by
  have goes (front : List Node) : (∀ node ∈ front, ∃ chars, t.renderNode event.json node = .ok chars) ↔
      ∀ q place', .action q place' ∈ front → ∃ value, q.eval event.json = .ok value := by
    simp only [renderNode_eq_ok_iff, exists_shows_iff]
    exact ⟨fun all q place' inside => all _ inside q place' rfl,
      fun all node inside q place' same => all q place' (same ▸ inside)⟩
  have split : t.render event = .error e ↔ t.nodes.mapM (t.renderNode event.json) = .error e := by
    rw [render_eq, nodesText]
    cases t.nodes.mapM (t.renderNode event.json) <;> simp [Except.map]
  rw [split, mapM_eq_error_iff]
  constructor
  · rintro ⟨front, node, back, nodes, good, failed⟩
    obtain ⟨p, place, fault, rfl, evaluated, rfl⟩ := renderNode_eq_error_iff.1 failed
    exact ⟨front, p, place, back, fault, nodes, (goes front).1 good, evaluated, rfl⟩
  · rintro ⟨front, p, place, back, fault, nodes, good, evaluated, rfl⟩
    exact ⟨front, _, back, nodes, (goes front).2 good,
      renderNode_eq_error_iff.2 ⟨p, place, fault, rfl, evaluated, rfl⟩⟩

/-- Some action fails if and only if there is a first one that does. -/
theorem exists_render_error_iff : (∃ e, t.render event = .error e) ↔
    ∃ p place fault, .action p place ∈ t.nodes ∧ p.eval event.json = .error fault := by
  constructor
  · rintro ⟨e, failed⟩
    obtain ⟨front, p, place, back, fault, nodes, -, evaluated, -⟩ := render_eq_error_iff.1 failed
    exact ⟨p, place, fault, by simp [nodes], evaluated⟩
  · rintro ⟨p, place, fault, inside, evaluated⟩
    cases rendered : t.render event with
    | error e => exact ⟨e, rfl⟩
    | ok text =>
        obtain ⟨texts, shown, -⟩ := render_eq_ok_iff.1 rendered
        have each := (List.forall₂_and_left t.nodes texts).1
          (shown.imp fun node chars one => ⟨exists_shows_iff.1 ⟨chars, one⟩, one⟩)
        obtain ⟨value, evaluated'⟩ := each.1 _ inside p place rfl
        rw [evaluated] at evaluated'
        cases evaluated'

/-! ## Templates that compile -/

/-- **What can fail once a template compiles is the data.**  For every record:

* the actions of the template are those of its source, each further back than the one before and
  where its braces open;
* it renders as the texts of its nodes in a row, the text of an action being that of its value;
* it fails if and only if some action has no value;
* then the first such action gives the error, whatever stands behind it: its fault, on the line of
  the braces that open it;
* no call in an action is ever given a wrong number of arguments, at any depth, when its commands are
  carried out with the arguments they were read with; and a fault is a chain that steps on through a
  value without fields or a name that is no string. -/
theorem render_fails_on_data_only {name source : String} {t : Template}
    (compiled : compile name source = .ok t) (event : Event) :
    (∃ ps, pieces source.toList = .ok ps ∧ t.nodes.filterMap Node.action? = ps.filterMap Piece.action? ∧
      (ps.filterMap Piece.action?).Pairwise fun a b => a.2 < b.2) ∧
    (∀ text, t.render event = .ok text ↔ ∃ texts,
      List.Forall₂ (Node.Shows event.json) t.nodes texts ∧ text = String.ofList texts.flatten) ∧
    ((∃ e, t.render event = .error e) ↔
      ∃ p place fault, .action p place ∈ t.nodes ∧ p.eval event.json = .error fault) ∧
    (∀ e, t.render event = .error e ↔ ∃ front p before back fault,
      t.nodes = front ++ .action p (byteCount before) :: back ∧
      (∀ q place, .action q place ∈ front → ∃ value, q.eval event.json = .ok value) ∧
      p.eval event.json = .error fault ∧ Stands source.toList before p ∧
      e = .render name (1 + before.count '\n') fault) ∧
    ∀ p place, .action p place ∈ t.nodes →
      (∃ before, Stands source.toList before p ∧ place = byteCount before) ∧
      (∀ start commands, Pipeline.ofCommands start commands = .ok p →
        p.calls = commands.map Command.carried) ∧
      Call.evalAll event.json none p.calls = (p.eval event.json).mapError .data ∧
      Call.evalAll event.json none p.calls ≠ .error .argCount ∧
      ∀ fault, p.eval event.json = .error fault → p.Blames event.json fault ∧ fault.Tells := by
  obtain ⟨ps, read, rfl⟩ := compile_eq_ok_iff.1 compiled
  refine ⟨⟨ps, read, actions_ofPieces ps, places_of_pieces read⟩, fun text => render_eq_ok_iff,
    exists_render_error_iff, fun e => ?_,
    fun p place inside => ⟨exists_stands read inside, fun start commands => Pipeline.calls_of_ofCommands,
      p.eval_calls event.json, ?_, ?_⟩⟩
  · rw [render_eq_error_iff]
    constructor
    · rintro ⟨front, p, place, back, fault, nodes, good, evaluated, rfl⟩
      have placed : Node.ofPieces ps = front ++ .action p place :: back := nodes
      have inside : .action p place ∈ Node.ofPieces ps := by simp [placed]
      obtain ⟨before, stands, rfl⟩ := exists_stands read inside
      refine ⟨front, p, before, back, fault, nodes, good, evaluated, stands, ?_⟩
      obtain ⟨body, tokens, trim, rest, split, -⟩ := stands
      rw [split, lineAt_byteCount]
    · rintro ⟨front, p, before, back, fault, nodes, good, evaluated, stands, rfl⟩
      obtain ⟨body, tokens, trim, rest, split, -⟩ := stands
      refine ⟨front, p, byteCount before, back, fault, nodes, good, evaluated, ?_⟩
      rw [split, lineAt_byteCount]
  · rw [p.eval_calls]
    cases p.eval event.json <;> simp [Except.mapError]
  · intro fault failed
    exact ⟨p.blames_of_eval failed, (p.blames_of_eval failed).tells⟩

/-- Two actions fail on a record, behind one that does not: the error is that of the first of them,
told on the second line, where it stands. -/
theorem render_fails_on_data_only_second_line :
    let source := "ok \x7b\x7b .a \x7d\x7d\n" ++
      "\x7b\x7b/* c */\x7d\x7dé\x7b\x7b field . (field . \"k\") \x7d\x7d\n" ++
      "\x7b\x7b .a.b \x7d\x7d \x7b\x7b \"k\" | field . | field . \x7d\x7d"
    let unfit : Event := ⟨[("a", .string "x"), ("k", .bool true)]⟩
    let fit : Event := ⟨[("a", .object [("b", .string "y")]), ("k", .string "n"), ("n", .bool false)]⟩
    ∃ t, compile "t" source = .ok t ∧ t.render fit = .ok "ok \x7b\"b\":\"y\"\x7d\néfalse\ny false" ∧
      t.render unfit = .error (.render "t" 2 (.nameNotString .bool)) ∧
      ∃ front p before back, t.nodes = front ++ .action p (byteCount before) :: back ∧
        Stands source.toList before p ∧ before.count '\n' = 1 ∧
        Call.evalAll unfit.json none p.calls = .error (.data (.nameNotString .bool)) ∧
        p.Blames unfit.json (.nameNotString .bool) := by
  intro source unfit fit
  have rendered : (compile "t" source >>= (·.render fit)) =
      .ok "ok \x7b\"b\":\"y\"\x7d\néfalse\ny false" := by decide +kernel
  have refused : (compile "t" source >>= (·.render unfit)) =
      .error (.render "t" 2 (.nameNotString .bool)) := by decide +kernel
  obtain ⟨t, compiled, rendered⟩ := bind_eq_ok_iff.1 rendered
  rw [compiled] at refused
  obtain ⟨-, -, -, fails, actions⟩ := render_fails_on_data_only compiled unfit
  obtain ⟨front, p, before, back, fault, nodes, -, evaluated, stands, same⟩ := (fails _).1 refused
  obtain ⟨-, line, rfl⟩ := Error.render.inj same
  obtain ⟨-, -, calls, -, blamed⟩ := actions p (byteCount before) (by simp [nodes])
  rw [evaluated] at calls
  exact ⟨t, compiled, rendered, refused, front, p, before, back, nodes, stands, by omega, calls,
    (blamed _ evaluated).1⟩

end Responder.Template
