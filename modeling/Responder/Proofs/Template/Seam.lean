/-
# Responder.Proofs.Template.Seam -- templates put together

A source may be put behind another where the seam is safe: the second starts with
a character that is neither white space nor a brace.  Then its pieces follow those
of the first at moved places, but for the texts at the seam, which become one
(`pieces_append`).  The text that starts at the seam cannot be trimmed away, so
nothing that stands behind it touches what stands before (`nodes_append`).  Hence
the whole compiles exactly if the second source does, and renders as the first
and then the second (`compile_append`).
-/
import Responder.Proofs.Template.Lookahead
import Responder.Proofs.Template.Order

namespace Responder.Template

set_option autoImplicit false

/-- An error whose line, if it has one, lies so many lines further down. -/
def Error.below (lines : Nat) : Error → Error
  | .parse name line fault => .parse name (line + lines) fault
  | .render name line fault => .render name (line + lines) fault
  | e => e

/-- Whether a source may be put behind any other: it starts with a character that is neither white
space nor a brace. -/
def SafeSeam (source : String) : Prop :=
  ∃ c rest, source.toList = c :: rest ∧ Text.isBlank c = false ∧ c ≠ '\x7b'

/-! ## Pieces -/

theorem scanFrom_cons {offset : Nat} {c : Char} {tail : List Char} {segments : List Segment}
    (noBrace : c ≠ '\x7b') (scanned : scanFrom offset (c :: tail) = .ok segments) :
    ∃ chars rest, segments = .text (c :: chars) :: rest := by
  have first := splitOpening_cons_of_ne noBrace tail
  rcases opened : (splitOpening tail).2 with _ | body <;> rw [opened] at first
  · rw [scanFrom_text first] at scanned
    cases scanned
    exact ⟨_, [], rfl⟩
  · rcases read : action (offset + byteCount (c :: (splitOpening tail).1)) body with flaw | ⟨segment, rest⟩
    · rw [scanFrom_flaw first read] at scanned
      cases scanned
    · rw [scanFrom_action first read] at scanned
      obtain ⟨later, -, eq⟩ := map_eq_ok_iff.1 scanned
      cases eq
      exact ⟨_, segment :: later, rfl⟩

/-- A text piece, unless it would be empty. -/
def textPiece (chars : List Char) : List Piece := if chars = [] then [] else [.text chars]

theorem mapM_read_textSegment (chars : List Char) :
    (textSegment chars).mapM Segment.read = .ok (textPiece chars) := by
  unfold textSegment textPiece
  split <;> rfl

/-- **The pieces of two sources in a row**: those of the first, those of the second at moved places,
and one text at the seam.  A flaw of the second is found at its moved place. -/
theorem pieces_append {cs : List Char} {ps : List Piece} (read : pieces cs = .ok ps) {c : Char}
    (noBrace : c ≠ '\x7b') (tail : List Char) :
    ∃ front last, ps = front ++ textPiece last ∧
      ((∃ e, pieces (c :: tail) = .error e ∧
          pieces (cs ++ c :: tail) = .error (e.moved (byteCount cs))) ∨
        ∃ chars rest, pieces (c :: tail) = .ok (.text (c :: chars) :: rest) ∧
          pieces (cs ++ c :: tail) =
            .ok (front ++ .text (last ++ c :: chars) :: rest.map (Piece.moved (byteCount cs)))) := by
  obtain ⟨segments, scanned, readAll⟩ := pieces_eq_ok_iff.1 read
  obtain ⟨front, last, split, goesOn⟩ := scanFrom_append scanned
  have whole : scan (cs ++ c :: tail) = (changed (List.map (Segment.moved (byteCount cs)))
      (Flaw.moved (byteCount cs)) (scan (c :: tail))).map (lengthen front last) := by
    rw [scan, goesOn c tail noBrace, Nat.zero_add, scan, ← scanFrom_moved, Nat.add_zero]
  obtain ⟨frontPieces, readFront, rfl⟩ :
      ∃ frontPieces, front.mapM Segment.read = .ok frontPieces ∧ ps = frontPieces ++ textPiece last := by
    rw [split, List.mapM_append, mapM_read_textSegment] at readAll
    obtain ⟨frontPieces, readFront, rest⟩ := bind_eq_ok_iff.1 readAll
    cases rest
    exact ⟨frontPieces, readFront, rfl⟩
  refine ⟨frontPieces, last, rfl, ?_⟩
  rcases scannedTail : scan (c :: tail) with flaw | found
  · refine .inl ⟨.flaw flaw, ?_, ?_⟩
    · rw [pieces, scannedTail]
      rfl
    · rw [pieces, whole, scannedTail]
      rfl
  · obtain ⟨chars, later, rfl⟩ := scanFrom_cons noBrace scannedTail
    have behind := mapM_changed (Segment.read_moved (byteCount cs)) later
    have alone : pieces (c :: tail) =
        (later.mapM Segment.read).map fun rest => .text (c :: chars) :: rest := by
      rw [pieces, scannedTail]
      show (Segment.text (c :: chars) :: later).mapM Segment.read = _
      rw [List.mapM_cons]
      cases later.mapM Segment.read <;> rfl
    have both : pieces (cs ++ c :: tail) = (changed (List.map (Piece.moved (byteCount cs)))
        (SyntaxError.moved (byteCount cs)) (later.mapM Segment.read)).map
          fun rest => frontPieces ++ .text (last ++ c :: chars) :: rest := by
      rw [pieces, whole, scannedTail]
      show (front ++ .text (last ++ c :: chars) :: later.map (Segment.moved (byteCount cs))).mapM
        Segment.read = _
      rw [List.mapM_append, readFront, List.mapM_cons, behind]
      cases later.mapM Segment.read <;> rfl
    rcases readLater : later.mapM Segment.read with e | rest
    · exact .inl ⟨e, by rw [alone, readLater]; rfl, by rw [both, readLater]; rfl⟩
    · exact .inr ⟨chars, rest, by rw [alone, readLater]; rfl, by rw [both, readLater]; rfl⟩

/-! ## Nodes -/

theorem eq_of_map_moved {k : Nat} {nodes upper : List Node} {chars : List Char}
    (moved : nodes.map (Node.moved k) = .text chars :: upper) :
    ∃ above, nodes = .text chars :: above ∧ above.map (Node.moved k) = upper := by
  obtain ⟨node, above, rfl, first, rest⟩ := List.map_eq_cons_iff.1 moved
  cases node with
  | text cs =>
      cases first
      exact ⟨above, rfl, rest⟩
  | action pipeline offset => cases first

/-- **The nodes of pieces that are joined in one text**: what is left of the text in front stands in
front of what is left of the text behind, and nothing else changes. -/
theorem nodes_append {c : Char} (solid : Text.isBlank c = false) (front : List Piece)
    (last chars : List Char) (k : Nat) (rest : List Piece) :
    ∃ lower before upper after, Node.ofPieces (front ++ textPiece last) = lower ++ textNode before ∧
      Node.ofPieces (.text (c :: chars) :: rest) = .text (c :: after) :: upper ∧
      Node.ofPieces (front ++ .text (last ++ c :: chars) :: rest.map (Piece.moved k)) =
        lower ++ .text (before ++ c :: after) :: upper.map (Node.moved k) := by
  let placed := front.foldl Placement.add ⟨[], false⟩
  let before := if placed.trimNext then trimStart last else last
  have ended : ((front ++ textPiece last).foldl Placement.add ⟨[], false⟩).nodes =
      textNode before ++ placed.nodes := by
    rw [List.foldl_append]
    by_cases none : last = []
    · have nothing : before = [] := by
        simp only [before, none]
        split <;> rfl
      rw [textPiece, if_pos none, nothing]
      rfl
    · rw [textPiece, if_neg none]
      rfl
  have joined : placed.add (.text (last ++ c :: chars)) =
      ⟨.text (before ++ c :: chars) :: placed.nodes, false⟩ := by
    have nonempty : before ++ c :: chars ≠ [] := by simp
    have trimmed : (if placed.trimNext then trimStart (last ++ c :: chars) else last ++ c :: chars) =
        before ++ c :: chars := by
      simp only [before]
      split
      · exact trimStart_append_cons solid last chars
      · rfl
    rw [Placement.add, trimmed, textNode_of_ne_nil nonempty]
    rfl
  -- from here on the text at the seam is the oldest node that trimming reaches, and it cannot vanish
  have start : Continues c before placed.nodes (placed.add (.text (last ++ c :: chars))).nodes
      (Placement.add ⟨[], false⟩ (.text (c :: chars))).nodes := by
    rw [joined]
    exact ⟨[], chars, rfl, rfl⟩
  obtain ⟨upper, after, whole, alone⟩ := start.foldl_add solid rfl (rest.map (Piece.moved k))
  have moved : (Node.ofPieces (.text (c :: chars) :: rest)).map (Node.moved k) =
      .text (c :: after) :: upper.reverse := by
    rw [← ofPieces_moved, List.map_cons, Node.ofPieces, List.foldl_cons]
    simp only [Piece.moved, alone, List.reverse_append, List.reverse_singleton, List.singleton_append]
  obtain ⟨upper', aloneEq, upperEq⟩ := eq_of_map_moved moved
  refine ⟨placed.nodes.reverse, before, upper', after, ?_, aloneEq, ?_⟩
  · rw [Node.ofPieces, ended, List.reverse_append, reverse_textNode]
  · rw [Node.ofPieces, List.foldl_append, List.foldl_cons, whole, upperEq]
    simp

/-! ## Rendering -/

/-- The text of nodes of a template. -/
def nodesText (t : Template) (dot : Json) (nodes : List Node) : Except Error (List Char) :=
  (nodes.mapM (t.renderNode dot)).map List.flatten

theorem render_eq (t : Template) (event : Event) :
    t.render event = (nodesText t event.json t.nodes).map String.ofList := by
  rw [render, nodesText]
  cases t.nodes.mapM (t.renderNode event.json) <;> rfl

theorem nodesText_append (t : Template) (dot : Json) (first second : List Node) :
    nodesText t dot (first ++ second) = do
      let front ← nodesText t dot first
      let back ← nodesText t dot second
      return front ++ back := by
  rw [nodesText, nodesText, nodesText, List.mapM_append]
  cases first.mapM (t.renderNode dot) with
  | error e => rfl
  | ok front =>
      cases second.mapM (t.renderNode dot) with
      | error e => rfl
      | ok back => exact congrArg Except.ok List.flatten_append

theorem nodesText_textNode (t : Template) (dot : Json) (chars : List Char) :
    nodesText t dot (textNode chars) = .ok chars := by
  unfold textNode
  split
  · rename_i none
    rw [none]
    rfl
  · exact congrArg Except.ok (List.append_nil chars)

/-- Two texts in a row render as one. -/
theorem nodesText_joined (t : Template) (dot : Json) (lower upper : List Node)
    (before chars : List Char) :
    nodesText t dot (lower ++ .text (before ++ chars) :: upper) =
      nodesText t dot ((lower ++ textNode before) ++ .text chars :: upper) := by
  have text (cs : List Char) : nodesText t dot [.text cs] = .ok cs :=
    congrArg Except.ok (List.append_nil cs)
  have apart (cs : List Char) : .text cs :: upper = [Node.text cs] ++ upper := rfl
  rw [apart, apart, nodesText_append, nodesText_append, nodesText_append, nodesText_append,
    nodesText_append, text, text, nodesText_textNode]
  cases nodesText t dot lower with
  | error e => rfl
  | ok first =>
      cases nodesText t dot upper with
      | error e => rfl
      | ok last => exact congrArg Except.ok (by simp)

theorem nodesText_congr {t u : Template} {dot : Json} {nodes : List Node}
    (same : ∀ node ∈ nodes, t.renderNode dot node = u.renderNode dot node) :
    nodesText t dot nodes = nodesText u dot nodes := by
  rw [nodesText, nodesText, mapM_congr same]

/-- A text behind a template's source changes nothing for the nodes of the template. -/
theorem renderNode_append (name : String) (cs ds : List Char) (nodes all : List Node) (dot : Json)
    {node : Node} (inside : ∀ pipeline offset, node = .action pipeline offset → offset ≤ byteCount cs) :
    renderNode ⟨name, cs ++ ds, all⟩ dot node = renderNode ⟨name, cs, nodes⟩ dot node := by
  cases node with
  | text chars => rfl
  | action pipeline offset => rw [renderNode, renderNode, lineAt_append_of_le (inside _ _ rfl)]

/-- A text in front of a template's source only puts the errors of moved nodes on lower lines. -/
theorem renderNode_moved (name : String) (cs ds : List Char) (nodes all : List Node) (dot : Json)
    (node : Node) : renderNode ⟨name, cs ++ ds, all⟩ dot (node.moved (byteCount cs)) =
      changed id (Error.below (cs.count '\n')) (renderNode ⟨name, ds, nodes⟩ dot node) := by
  cases node with
  | text chars => rfl
  | action pipeline offset =>
      rw [Node.moved, renderNode, renderNode, lineAt_append_moved]
      cases pipeline.eval dot <;> rfl

theorem located_moved (name : String) (cs ds : List Char) (e : SyntaxError) :
    (e.moved (byteCount cs)).located name (cs ++ ds) = (e.located name ds).below (cs.count '\n') := by
  cases e with
  | flaw f => exact congrArg (Error.parse name · f.fault) (lineAt_append_moved cs ds f.offset)
  | unknownFunction function => rfl
  | argCount got => rfl

theorem compile_eq_ok_iff {name source : String} {t : Template} :
    compile name source = .ok t ↔
      ∃ ps, pieces source.toList = .ok ps ∧ t = ⟨name, source.toList, Node.ofPieces ps⟩ := by
  unfold compile
  cases pieces source.toList with
  | error e => simp
  | ok ps => simp [eq_comm]

theorem compile_of_pieces_error (name : String) {source : String} {e : SyntaxError}
    (failed : pieces source.toList = .error e) :
    compile name source = .error (e.located name source.toList) := by
  rw [compile, failed]

/-- The places of a template's actions lie in its source. -/
theorem offset_of_mem_nodes {cs : List Char} {ps : List Piece} (read : pieces cs = .ok ps)
    {pipeline : Pipeline} {offset : Nat} (member : .action pipeline offset ∈ Node.ofPieces ps) :
    offset ≤ byteCount cs := by
  obtain ⟨before, ⟨body, tokens, trim, rest, split, -⟩, rfl⟩ := exists_stands read member
  rw [split, byteCount_append]
  omega

/-- **A template with another put behind it renders as the first and then the second**, and what
fails in the second is found on a lower line. -/
theorem render_append (name : String) {cs : List Char} (ds : List Char) {lower : List Node}
    {before : List Char} (after : List Char) (upper : List Node)
    (inside : ∀ pipeline offset, .action pipeline offset ∈ lower ++ textNode before → offset ≤ byteCount cs)
    (event : Event) :
    render ⟨name, cs ++ ds, lower ++ .text (before ++ after) :: upper.map (Node.moved (byteCount cs))⟩ event =
      (do
        let front ← render ⟨name, cs, lower ++ textNode before⟩ event
        let back ← changed id (Error.below (cs.count '\n')) (render ⟨name, ds, .text after :: upper⟩ event)
        return front ++ back) := by
  let whole : Template :=
    ⟨name, cs ++ ds, lower ++ .text (before ++ after) :: upper.map (Node.moved (byteCount cs))⟩
  have inFront : nodesText whole event.json (lower ++ textNode before) =
      nodesText ⟨name, cs, lower ++ textNode before⟩ event.json (lower ++ textNode before) :=
    nodesText_congr fun node member => renderNode_append name cs ds _ _ event.json
      fun pipeline offset eq => inside pipeline offset (eq ▸ member)
  have behind : nodesText whole event.json (.text after :: upper.map (Node.moved (byteCount cs))) =
      changed id (Error.below (cs.count '\n'))
        (nodesText ⟨name, ds, .text after :: upper⟩ event.json (.text after :: upper)) := by
    have texts := mapM_changed
      (renderNode_moved name cs ds (.text after :: upper) whole.nodes event.json) (.text after :: upper)
    rw [nodesText, nodesText]
    refine Eq.trans (congrArg (Except.map List.flatten) texts) (changed_map fun found => ?_)
    rw [List.map_id]
    rfl
  have joined := nodesText_joined whole event.json lower (upper.map (Node.moved (byteCount cs))) before after
  rw [nodesText_append whole event.json (lower ++ textNode before), inFront, behind] at joined
  rw [render_eq, render_eq, render_eq, joined]
  cases nodesText ⟨name, cs, lower ++ textNode before⟩ event.json (lower ++ textNode before) with
  | error e => rfl
  | ok first =>
      cases nodesText ⟨name, ds, .text after :: upper⟩ event.json (.text after :: upper) with
      | error e => rfl
      | ok last => exact congrArg Except.ok String.ofList_append

/-- **A template whose source goes on at a safe seam.**  The whole compiles exactly if what is put
behind does, and fails with the same error on a lower line.  It renders as the first and then the
second: the first to fail gives the error, on its own line or so many lines further down as the
first has line breaks. -/
theorem compile_append {name s t : String} {front : Template} (compiled : compile name s = .ok front)
    (safe : SafeSeam t) :
    let lines := s.toList.count '\n'
    ((∃ whole, compile name (s ++ t) = .ok whole) ↔ ∃ back, compile name t = .ok back) ∧
      (∀ e, compile name t = .error e → compile name (s ++ t) = .error (e.below lines)) ∧
      ∀ whole back, compile name (s ++ t) = .ok whole → compile name t = .ok back → ∀ event,
        (∀ e, front.render event = .error e → whole.render event = .error e) ∧
        (∀ x e, front.render event = .ok x → back.render event = .error e →
          whole.render event = .error (e.below lines)) ∧
        ∀ x y, front.render event = .ok x → back.render event = .ok y →
          whole.render event = .ok (x ++ y) := by
  intro lines
  obtain ⟨c, tail, starts, solid, noBrace⟩ := safe
  obtain ⟨ps, read, rfl⟩ := compile_eq_ok_iff.1 compiled
  obtain ⟨frontPieces, last, rfl, behind⟩ := pieces_append read noBrace tail
  rw [← starts] at behind
  rcases behind with ⟨e, failed, failedWhole⟩ | ⟨chars, rest, readBack, readWhole⟩
  · rw [← String.toList_append] at failedWhole
    have refused := compile_of_pieces_error name failed
    have refusedWhole := compile_of_pieces_error name failedWhole
    rw [String.toList_append, located_moved] at refusedWhole
    refine ⟨by simp [refused, refusedWhole], ?_, ?_⟩
    · intro e' same
      rw [refused] at same
      cases same
      exact refusedWhole
    · intro whole back compiledWhole
      rw [refusedWhole] at compiledWhole
      cases compiledWhole
  · rw [← String.toList_append] at readWhole
    have compiledBack := compile_eq_ok_iff.2 ⟨_, readBack, Eq.refl (Template.mk name _ _)⟩
    have compiledWhole := compile_eq_ok_iff.2 ⟨_, readWhole, Eq.refl (Template.mk name _ _)⟩
    refine ⟨by simp [compiledBack, compiledWhole], by simp [compiledBack], ?_⟩
    intro whole back sameWhole sameBack event
    rw [compiledWhole] at sameWhole
    rw [compiledBack] at sameBack
    cases sameWhole
    cases sameBack
    obtain ⟨lower, before, upper, after, frontNodes, backNodes, wholeNodes⟩ :=
      nodes_append solid frontPieces last chars (byteCount s.toList) rest
    have inside (pipeline : Pipeline) (offset : Nat)
        (member : .action pipeline offset ∈ lower ++ textNode before) : offset ≤ byteCount s.toList :=
      offset_of_mem_nodes read (frontNodes ▸ member)
    have law := render_append name t.toList (c :: after) upper inside event
    simp only [frontNodes, backNodes, wholeNodes, String.toList_append, law]
    refine ⟨?_, ?_, ?_⟩
    · intro e failed
      rw [failed]
      rfl
    · intro x e rendered failed
      rw [rendered, failed]
      rfl
    · intro x y renderedFront renderedBack
      rw [renderedFront, renderedBack]
      rfl

/-- Behind a comment, an action that trims and a single brace, a source whose action trims too: its
text keeps off what stands before, and what it cannot render is told three lines further down.  So
is the flaw of a source that does not compile. -/
theorem compile_append_trimmed :
    let s := "a \n\x7b\x7b/* x */ -\x7d\x7d \n\x7b\x7b .n -\x7d\x7d \n\x7b"
    let t := "| \n\x7b\x7b- .a.b \x7d\x7d"
    let flawed := "|\n\x7b\x7b \x7d\x7d"
    let unfit : Event := ⟨[("a", .string "x"), ("n", .bool true)]⟩
    let fit : Event := ⟨[("a", .object [("b", .string "y")]), ("n", .bool true)]⟩
    ∃ front back whole, (compile "t" s = .ok front ∧ SafeSeam t ∧ SafeSeam flawed) ∧
      (compile "t" flawed = .error (.parse "t" 2 .missingValue) ∧
        compile "t" (s ++ flawed) = .error (.parse "t" 5 .missingValue)) ∧
      (compile "t" t = .ok back ∧ compile "t" (s ++ t) = .ok whole) ∧
      (front.render unfit = .ok "a \ntrue\x7b" ∧
        back.render unfit = .error (.render "t" 2 (.noField "b" .string)) ∧
        whole.render unfit = .error (.render "t" 5 (.noField "b" .string))) ∧
      front.render fit = .ok "a \ntrue\x7b" ∧ back.render fit = .ok "|y" ∧
        whole.render fit = .ok ("a \ntrue\x7b" ++ "|y") := by
  intro s t flawed unfit fit
  have unfitFront : (compile "t" s >>= (·.render unfit)) = .ok "a \ntrue\x7b" := by decide +kernel
  have fitFront : (compile "t" s >>= (·.render fit)) = .ok "a \ntrue\x7b" := by decide +kernel
  have unfitBack : (compile "t" t >>= (·.render unfit)) =
      .error (.render "t" 2 (.noField "b" .string)) := by decide +kernel
  have fitBack : (compile "t" t >>= (·.render fit)) = .ok "|y" := by decide +kernel
  have refused : compile "t" flawed = .error (.parse "t" 2 .missingValue) := by
    have erased : (compile "t" flawed).map (fun _ => ()) = .error (.parse "t" 2 .missingValue) := by
      decide +kernel
    cases made : compile "t" flawed <;> rw [made] at erased <;> cases erased
    rfl
  have safe : SafeSeam t := ⟨'|', t.toList.tail, by decide +kernel, by decide, by decide⟩
  have safeFlawed : SafeSeam flawed := ⟨'|', flawed.toList.tail, by decide +kernel, by decide, by decide⟩
  have lines : s.toList.count '\n' = 3 := by decide +kernel
  obtain ⟨front, compiled, fitFront⟩ := bind_eq_ok_iff.1 fitFront
  obtain ⟨back, compiledBack, fitBack⟩ := bind_eq_ok_iff.1 fitBack
  rw [compiled] at unfitFront
  rw [compiledBack] at unfitBack
  obtain ⟨both, -, renders⟩ := compile_append compiled safe
  obtain ⟨-, refuses, -⟩ := compile_append compiled safeFlawed
  obtain ⟨whole, compiledWhole⟩ := both.2 ⟨back, compiledBack⟩
  have refusedWhole := refuses _ refused
  obtain ⟨-, failsBehind, -⟩ := renders whole back compiledWhole compiledBack unfit
  obtain ⟨-, -, goesWell⟩ := renders whole back compiledWhole compiledBack fit
  have failed := failsBehind _ _ unfitFront unfitBack
  rw [lines] at refusedWhole failed
  exact ⟨front, back, whole, ⟨compiled, safe, safeFlawed⟩, ⟨refused, refusedWhole⟩,
    ⟨compiledBack, compiledWhole⟩, ⟨unfitFront, unfitBack, failed⟩,
    fitFront, fitBack, goesWell _ _ fitFront fitBack⟩

end Responder.Template
