/-
# Responder.Proofs.Template.Trim -- trim markers and the texts next to them

A marker is meant for the text that stands directly next to it.  `between` says
so piece by piece: what a text leaves is decided by the two pieces around it, and
comments leave nothing.  On the right of a marker placement does the same.  On
its left it takes the node that was placed last, and behind a piece that leaves
no node this is a text further to the front (`ReachesOver`).

Whatever the markers, actions are placed once and in order and only white space
at the end of texts gets lost beyond that (`Shortened`); and the nodes are those
of `between` if and only if no marker reaches over its neighbour
(`compile_nodes_eq_between_iff`).
-/
import Mathlib.Data.List.Chain
import Mathlib.Data.List.DropRight
import Mathlib.Data.List.Induction
import Responder.Proofs.Template.Seam

namespace Responder.Template

set_option autoImplicit false

/-! ## What the neighbours leave of a text -/

/-- Whether a piece trims the text before it. -/
def Piece.trimsLeft : Piece → Bool
  | .text _ => false
  | .action _ _ trim | .comment trim => trim.left

/-- Whether a piece trims the text after it. -/
def Piece.trimsRight : Piece → Bool
  | .text _ => false
  | .action _ _ trim | .comment trim => trim.right

/-- What a text between two pieces keeps. -/
def keptText (before after : Option Piece) (chars : List Char) : List Char :=
  let rest := if before.any Piece.trimsRight then trimStart chars else chars
  if after.any Piece.trimsLeft then trimEnd rest else rest

/-- The nodes that a piece leaves between two others: an action always leaves one, a text unless
nothing remains of it, and a comment none. -/
def Piece.nodesBetween (before after : Option Piece) : Piece → List Node
  | .text chars => textNode (keptText before after chars)
  | .action pipeline offset _ => [.action pipeline offset]
  | .comment _ => []

/-- The nodes of pieces in a row between two others, each decided by the pieces directly around it. -/
def between (before after : Option Piece) : List Piece → List Node
  | [] => []
  | p :: rest => p.nodesBetween before (rest.head?.or after) ++ between (some p) after rest

theorem between_append (before after : Option Piece) (front back : List Piece) :
    between before after (front ++ back) =
      between before (back.head?.or after) front ++ between (front.getLast?.or before) after back := by
  induction front generalizing before with
  | nil => simp [between]
  | cons p rest ih =>
      have last : (p :: rest).getLast?.or before = rest.getLast?.or (some p) := by
        cases rest <;> simp [List.getLast?_cons]
      rw [List.cons_append, between, ih, between, last, List.append_assoc]
      cases rest <;> simp

theorem between_concat (after : Option Piece) (front : List Piece) (p : Piece) :
    between none after (front ++ [p]) =
      between none (some p) front ++ p.nodesBetween front.getLast? after := by
  rw [between_append]
  simp [between]

theorem keptText_eq (before after : Option Piece) (chars : List Char) :
    keptText before after chars =
      if after.any Piece.trimsLeft then trimEnd (keptText before none chars)
      else keptText before none chars := rfl

theorem keptText_none (before : Option Piece) (chars : List Char) :
    keptText before none chars = if before.any Piece.trimsRight then trimStart chars else chars := rfl

theorem textNode_eq_nil_iff {chars : List Char} : textNode chars = [] ↔ chars = [] := by
  unfold textNode
  split
  · exact iff_of_true rfl ‹_›
  · exact iff_of_false (List.cons_ne_nil _ _) ‹_›

theorem ne_nil_of_text_mem_textNode {chars kept : List Char} (member : .text chars ∈ textNode kept) :
    chars ≠ [] := by
  unfold textNode at member
  split at member
  · cases member
  · rename_i some
    cases List.mem_singleton.1 member
    exact some

theorem ne_nil_of_text_mem_between {before after : Option Piece} {ps : List Piece} {chars : List Char}
    (member : .text chars ∈ between before after ps) : chars ≠ [] := by
  induction ps generalizing before with
  | nil => cases member
  | cons p rest ih =>
      rcases List.mem_append.1 member with here | later
      · cases p with
        | text whole => exact ne_nil_of_text_mem_textNode here
        | action pipeline offset trim => simp [Piece.nodesBetween] at here
        | comment trim => cases here
      · exact ih later

/-! ## Placing the last of several pieces -/

/-- Nodes with white space taken off the end of the last if that is text. -/
def trimLast (nodes : List Node) : List Node := (trimNewest nodes.reverse).reverse

theorem trimLast_concat_text (nodes : List Node) (chars : List Char) :
    trimLast (nodes ++ [.text chars]) = nodes ++ textNode (trimEnd chars) := by
  simp [trimLast, trimNewest, reverse_textNode]

theorem trimLast_concat_action (nodes : List Node) (pipeline : Pipeline) (offset : Nat) :
    trimLast (nodes ++ [.action pipeline offset]) = nodes ++ [.action pipeline offset] := by
  simp [trimLast, trimNewest]

/-- What is placed of pieces in a row. -/
def placed (ps : List Piece) : Placement := ps.foldl Placement.add ⟨[], false⟩

/-- The nodes of pieces in a row when room has been made for the piece after them. -/
def nodesBefore (ps : List Piece) (after : Option Piece) : List Node :=
  ((placed ps).trimmed (after.any Piece.trimsLeft)).reverse

theorem ofPieces_eq_nodesBefore (ps : List Piece) : Node.ofPieces ps = nodesBefore ps none := rfl

theorem nodesBefore_eq (ps : List Piece) (after : Option Piece) :
    nodesBefore ps after =
      if after.any Piece.trimsLeft then trimLast (nodesBefore ps none) else nodesBefore ps none := by
  unfold nodesBefore Placement.trimmed trimLast
  split <;> simp

theorem nodesBefore_nil (after : Option Piece) : nodesBefore [] after = [] := by
  rw [nodesBefore_eq]
  split <;> rfl

theorem placed_concat (front : List Piece) (p : Piece) : placed (front ++ [p]) = (placed front).add p := by
  simp [placed]

theorem placed_trimNext (ps : List Piece) : (placed ps).trimNext = ps.getLast?.any Piece.trimsRight := by
  induction ps using List.reverseRecOn with
  | nil => rfl
  | append_singleton front p ih =>
      rw [placed_concat, List.getLast?_concat]
      cases p <;> rfl

theorem nodesBefore_concat_none (front : List Piece) (p : Piece) :
    nodesBefore (front ++ [p]) none =
      nodesBefore front (some p) ++ p.nodesBetween front.getLast? none := by
  have last : nodesBefore (front ++ [p]) none = ((placed front).add p).nodes.reverse := by
    rw [nodesBefore, placed_concat]
    rfl
  rw [last]
  cases p with
  | text chars =>
      rw [Placement.add, placed_trimNext, List.reverse_append, reverse_textNode]
      rfl
  | action pipeline offset trim => exact List.reverse_cons
  | comment trim => exact (List.append_nil _).symm

/-- A piece that leaves a node keeps the marker after it from all that stands before. -/
theorem nodesBefore_concat_of_ne_nil {front : List Piece} {p : Piece}
    (leaves : p.nodesBetween front.getLast? none ≠ []) (after : Option Piece) :
    nodesBefore (front ++ [p]) after =
      nodesBefore front (some p) ++ p.nodesBetween front.getLast? after := by
  rw [nodesBefore_eq, nodesBefore_concat_none]
  cases p with
  | text chars =>
      rw [Piece.nodesBetween, Ne, textNode_eq_nil_iff] at leaves
      rw [Piece.nodesBetween, Piece.nodesBetween, keptText_eq _ after]
      split
      · rw [textNode_of_ne_nil leaves, trimLast_concat_text]
      · rfl
  | action pipeline offset trim =>
      rw [Piece.nodesBetween, Piece.nodesBetween, trimLast_concat_action, ite_self]
  | comment trim => exact absurd rfl leaves

/-- Behind a piece that leaves no node a marker acts on what stands before. -/
theorem nodesBefore_concat_of_nil {front : List Piece} {p : Piece}
    (leaves : p.nodesBetween front.getLast? none = []) (after : Option Piece) :
    nodesBefore (front ++ [p]) after =
      if after.any Piece.trimsLeft then trimLast (nodesBefore front (some p))
      else nodesBefore front (some p) := by
  rw [nodesBefore_eq, nodesBefore_concat_none, leaves, List.append_nil]

/-- A piece that leaves no node leaves none whatever comes after it. -/
theorem nodesBetween_eq_nil {before : Option Piece} {p : Piece} (leaves : p.nodesBetween before none = [])
    (after : Option Piece) : p.nodesBetween before after = [] := by
  cases p with
  | text chars =>
      rw [Piece.nodesBetween, textNode_eq_nil_iff] at leaves ⊢
      rw [keptText_eq _ after, leaves]
      split <;> rfl
  | action pipeline offset trim => cases leaves
  | comment trim => rfl

/-! ## Only white space gets lost -/

/-- The same nodes in the same order, but some texts have lost the white space at their end, and are
left out if nothing remains. -/
inductive Shortened : List Node → List Node → Prop
  | nil : Shortened [] []
  | same (node : Node) {long short : List Node} (rest : Shortened long short) :
      Shortened (node :: long) (node :: short)
  | cut (chars : List Char) {long short : List Node} (rest : Shortened long short) :
      Shortened (.text chars :: long) (textNode (trimEnd chars) ++ short)

theorem Shortened.refl (nodes : List Node) : Shortened nodes nodes := by
  induction nodes with
  | nil => exact .nil
  | cons node rest ih => exact .same node ih

theorem Shortened.append {long short long' short' : List Node} (first : Shortened long short)
    (second : Shortened long' short') : Shortened (long ++ long') (short ++ short') := by
  induction first with
  | nil => exact second
  | same node rest ih => exact .same node ih
  | cut chars rest ih =>
      rw [List.append_assoc]
      exact .cut chars ih

theorem trimEnd_isPrefix (cs : List Char) : trimEnd cs <+: cs := List.rdropWhile_prefix Text.isBlank cs

theorem trimEnd_trimEnd (cs : List Char) : trimEnd (trimEnd cs) = trimEnd cs :=
  List.rdropWhile_idempotent Text.isBlank cs

theorem trimLast_append (front : List Node) {back : List Node} (some : back ≠ []) :
    trimLast (front ++ back) = front ++ trimLast back := by
  obtain ⟨inner, last, rfl⟩ := (List.eq_nil_or_concat' back).resolve_left some
  rw [← List.append_assoc]
  cases last with
  | text chars => rw [trimLast_concat_text, trimLast_concat_text, List.append_assoc]
  | action pipeline offset => rw [trimLast_concat_action, trimLast_concat_action, List.append_assoc]

theorem trimLast_textNode (chars : List Char) : trimLast (textNode chars) = textNode (trimEnd chars) := by
  by_cases empty : chars = []
  · subst empty
    rfl
  · rw [textNode_of_ne_nil empty]
    exact trimLast_concat_text [] chars

/-- Trimming the end once more loses nothing but white space. -/
theorem Shortened.trimLast {long short : List Node} (shortened : Shortened long short) :
    Shortened long (trimLast short) := by
  induction shortened with
  | nil => exact .nil
  | @same node long short rest ih =>
      by_cases last : short = []
      · subst last
        cases node with
        | text chars =>
            have cut := Shortened.cut chars rest
            rw [List.append_nil] at cut
            rwa [← List.nil_append [Node.text chars], trimLast_concat_text]
        | action pipeline offset => exact .same _ rest
      · have inside := trimLast_append [node] last
        rw [List.singleton_append] at inside
        rw [inside]
        exact .same node ih
  | @cut chars long short rest ih =>
      by_cases last : short = []
      · subst last
        have cut := Shortened.cut chars rest
        rwa [List.append_nil, trimLast_textNode, trimEnd_trimEnd, ← List.append_nil (textNode _)]
      · rw [trimLast_append _ last]
        exact .cut chars ih

/-- Placing loses nothing that the pieces directly around a text do not take from it, but for white
space at the end. -/
theorem between_shortened (ps : List Piece) (after : Option Piece) :
    Shortened (between none after ps) (nodesBefore ps after) := by
  -- from the right, because what a piece leaves depends on the one after it
  induction ps using List.reverseRecOn generalizing after with
  | nil =>
      rw [nodesBefore_nil]
      exact .nil
  | append_singleton front p ih =>
      have inFront := ih (some p)
      rw [between_concat]
      by_cases leaves : p.nodesBetween front.getLast? none = []
      · -- the piece after `p` trims what stands in front of `p`, for the second time if `p` trims it too
        rw [nodesBefore_concat_of_nil leaves, nodesBetween_eq_nil leaves, List.append_nil]
        split
        · exact inFront.trimLast
        · exact inFront
      · rw [nodesBefore_concat_of_ne_nil leaves]
        exact inFront.append (.refl _)

/-! ## Markers that reach over their neighbour -/

/-- Whether the marker of a piece takes white space from a text that does not stand next to it: the
piece directly before it leaves no node, and in front of that one a text is the last node and has
white space at its end. -/
def ReachesOver (front : List Piece) (neighbour p : Piece) : Prop :=
  p.trimsLeft ∧ neighbour.nodesBetween front.getLast? none = [] ∧
    ∃ nodes chars, between none (some neighbour) front = nodes ++ [.text chars] ∧ trimEnd chars ≠ chars

/-- Whether each marker acts only on the text next to it. -/
def Local (ps : List Piece) : Prop :=
  ∀ front neighbour p back, ps = front ++ neighbour :: p :: back → ¬ReachesOver front neighbour p

theorem local_concat_concat {front : List Piece} {q p : Piece} :
    Local (front ++ [q, p]) ↔ Local (front ++ [q]) ∧ ¬ReachesOver front q p := by
  constructor
  · intro each
    refine ⟨fun before neighbour marked back split => ?_, each front q p [] rfl⟩
    exact each before neighbour marked (back ++ [p]) (by simpa using congrArg (· ++ [p]) split)
  · rintro ⟨inFront, last⟩ before neighbour marked back split
    rcases List.eq_nil_or_concat' back with rfl | ⟨back, final, rfl⟩
    · obtain ⟨rfl, same⟩ := List.append_inj' split rfl
      cases same
      exact last
    · have shorter : (front ++ [q]) ++ [p] = (before ++ neighbour :: marked :: back) ++ [final] := by
        simpa using split
      exact inFront before neighbour marked back (List.append_inj' shorter rfl).1

theorem local_concat_toList {front : List Piece} {q : Piece} {after : Option Piece} :
    Local (front ++ [q] ++ after.toList) ↔ Local (front ++ [q]) ∧ ∀ p ∈ after, ¬ReachesOver front q p := by
  cases after with
  | none => simp
  | some p => simpa using local_concat_concat

/-! ## Counting characters -/

/-- The characters of a node that are text. -/
def Node.textChars : Node → List Char
  | .text chars => chars
  | .action _ _ => []

/-- The number of characters in the texts among nodes. -/
def textLength (nodes : List Node) : Nat := (nodes.flatMap Node.textChars).length

theorem textLength_append (front back : List Node) :
    textLength (front ++ back) = textLength front + textLength back := by
  simp [textLength]

theorem textLength_cons (node : Node) (rest : List Node) :
    textLength (node :: rest) = node.textChars.length + textLength rest := by
  simp [textLength]

theorem textLength_textNode (chars : List Char) : textLength (textNode chars) = chars.length := by
  by_cases empty : chars = []
  · subst empty
    rfl
  · rw [textNode_of_ne_nil empty]
    simp [textLength, Node.textChars]

theorem Shortened.textLength_le {long short : List Node} (shortened : Shortened long short) :
    textLength short ≤ textLength long := by
  induction shortened with
  | nil => exact Nat.le_refl 0
  | same node rest ih =>
      rw [textLength_cons, textLength_cons]
      exact Nat.add_le_add_left ih _
  | cut chars rest ih =>
      rw [textLength_append, textLength_textNode, textLength_cons]
      exact Nat.add_le_add (trimEnd_isPrefix chars).length_le ih

theorem Shortened.text_ne_nil {long short : List Node} (shortened : Shortened long short)
    (full : ∀ chars, .text chars ∈ long → chars ≠ []) : ∀ chars, .text chars ∈ short → chars ≠ [] := by
  induction shortened with
  | nil => exact full
  | same node rest ih =>
      intro chars member
      rcases List.mem_cons.1 member with rfl | behind
      · exact full chars List.mem_cons_self
      · exact ih (fun later inside => full later (List.mem_cons_of_mem _ inside)) chars behind
  | cut whole rest ih =>
      intro chars member
      rcases List.mem_append.1 member with here | behind
      · exact ne_nil_of_text_mem_textNode here
      · exact ih (fun later inside => full later (List.mem_cons_of_mem _ inside)) chars behind

/-- Trimming the end leaves nodes as they are if and only if no text with white space at its end is last. -/
theorem trimLast_eq_self_iff {nodes : List Node} (full : ∀ chars, .text chars ∈ nodes → chars ≠ []) :
    trimLast nodes = nodes ↔ ¬∃ front chars, nodes = front ++ [.text chars] ∧ trimEnd chars ≠ chars := by
  rcases List.eq_nil_or_concat' nodes with rfl | ⟨front, last, rfl⟩
  · exact iff_of_true rfl (by simp)
  · cases last with
    | text chars =>
        have own : textNode chars = [.text chars] := textNode_of_ne_nil (full chars (by simp))
        rw [trimLast_concat_text]
        constructor
        · rintro kept ⟨front', chars', split, blank⟩
          obtain ⟨-, same⟩ := List.append_inj' split rfl
          cases same
          have left := List.append_cancel_left kept
          unfold textNode at left
          split at left
          · cases left
          · exact blank (Node.text.inj (List.cons.inj left).1)
        · intro solid
          have kept : trimEnd chars = chars := by
            by_contra blank
            exact solid ⟨front, chars, rfl, blank⟩
          rw [kept, own]
    | action pipeline offset =>
        refine iff_of_true (trimLast_concat_action front pipeline offset) ?_
        rintro ⟨front', chars, split, -⟩
        obtain ⟨-, same⟩ := List.append_inj' split rfl
        cases same

/-- Trimming the end takes characters off or leaves the nodes as they are. -/
theorem trimLast_eq_of_textLength {nodes : List Node} (full : ∀ chars, .text chars ∈ nodes → chars ≠ [])
    (same : textLength nodes ≤ textLength (trimLast nodes)) : trimLast nodes = nodes := by
  rw [trimLast_eq_self_iff full]
  rintro ⟨front, chars, rfl, blank⟩
  have fewer := (trimEnd_isPrefix chars).length_le
  rw [trimLast_concat_text, textLength_append, textLength_append, textLength_textNode, textLength_cons,
    Node.textChars] at same
  exact blank ((trimEnd_isPrefix chars).eq_of_length (by omega))

/-- Trimming the end of nodes that are short already gives back the long ones only if there was
nothing to trim on either: the characters that trimming takes off are missing for good. -/
theorem Shortened.trimLast_eq_iff {long short : List Node} (shortened : Shortened long short)
    (full : ∀ chars, .text chars ∈ long → chars ≠ []) :
    Template.trimLast short = long ↔
      short = long ∧ ¬∃ nodes chars, long = nodes ++ [.text chars] ∧ trimEnd chars ≠ chars := by
  constructor
  · intro same
    have kept : Template.trimLast short = short :=
      trimLast_eq_of_textLength (shortened.text_ne_nil full) (same ▸ shortened.textLength_le)
    obtain rfl : short = long := kept.symm.trans same
    exact ⟨rfl, (trimLast_eq_self_iff full).1 kept⟩
  · rintro ⟨rfl, solid⟩
    exact (trimLast_eq_self_iff full).2 solid

/-- Placement agrees with the neighbours exactly as long as no marker reaches over. -/
theorem nodesBefore_eq_between_iff (ps : List Piece) (after : Option Piece) :
    nodesBefore ps after = between none after ps ↔ Local (ps ++ after.toList) := by
  induction ps using List.reverseRecOn generalizing after with
  | nil =>
      rw [nodesBefore_nil]
      refine iff_of_true rfl fun front neighbour p back split => ?_
      cases after with
      | none => simp at split
      | some q => cases front <;> simp at split
  | append_singleton front q ih =>
      have inFront : nodesBefore front (some q) = between none (some q) front ↔ Local (front ++ [q]) :=
        ih (some q)
      rw [between_concat, local_concat_toList, ← inFront]
      by_cases leaves : q.nodesBetween front.getLast? none = []
      · rw [nodesBefore_concat_of_nil leaves, nodesBetween_eq_nil leaves, List.append_nil]
        split
        · -- the marker acts past `q`: that agrees only if there is nothing for it to take
          rename_i marked
          have trimmed := (between_shortened front (some q)).trimLast_eq_iff
            fun chars => ne_nil_of_text_mem_between
          rw [trimmed]
          refine and_congr_right fun _ => ⟨fun solid p _ reaches => solid reaches.2.2, fun each blank => ?_⟩
          obtain ⟨p, rfl, left⟩ := (Option.any_eq_true _ _).1 marked
          exact each p rfl ⟨left, leaves, blank⟩
        · rename_i unmarked
          refine ⟨fun same => ⟨same, fun p member reaches => unmarked ?_⟩, And.left⟩
          rw [Option.mem_def.1 member]
          exact reaches.1
      · rw [nodesBefore_concat_of_ne_nil leaves, List.append_left_inj]
        exact ⟨fun same => ⟨same, fun p _ reaches => leaves reaches.2.1⟩, And.left⟩

/-! ## Templates -/

/-- Whether a piece leaves a node whatever stands around it. -/
def Piece.isSolid : Piece → Bool
  | .text chars => chars.any fun c => !Text.isBlank c
  | .action _ _ _ => true
  | .comment _ => false

theorem nodesBetween_ne_nil {p : Piece} (solid : p.isSolid) (before : Option Piece) :
    p.nodesBetween before none ≠ [] := by
  cases p with
  | text chars =>
      obtain ⟨c, member, visible⟩ := List.any_eq_true.1 solid
      have whole : chars ≠ [] := List.ne_nil_of_mem member
      have part : trimStart chars ≠ [] := fun blank => by
        simp [List.dropWhile_eq_nil_iff.1 blank c member] at visible
      rw [Piece.nodesBetween, Ne, textNode_eq_nil_iff, keptText_none]
      split <;> assumption
  | action pipeline offset trim => exact List.cons_ne_nil _ _
  | comment trim => cases solid

/-- Markers that each stand behind a visible text or an action act only on that. -/
theorem local_of_isChain {ps : List Piece} (each : ps.IsChain fun q p => p.trimsLeft → q.isSolid) :
    Local ps := by
  rintro front q p back split ⟨left, leaves, -⟩
  have solid := List.isChain_iff_forall_rel_of_append_cons_cons.1 each split left
  exact nodesBetween_ne_nil solid _ leaves

/-- **Trim markers and the texts next to them.**  The nodes of a template are those that its pieces
leave between their direct neighbours, in order, but for texts that have lost white space at their
end; and they are exactly those if and only if no marker on the left of a piece reaches over the
piece before it. -/
theorem compile_nodes_eq_between_iff {name source : String} {t : Template}
    (compiled : compile name source = .ok t) :
    ∃ segments ps, scan source.toList = .ok segments ∧ segments.mapM Segment.read = .ok ps ∧
      Shortened (between none none ps) t.nodes ∧ (t.nodes = between none none ps ↔ Local ps) := by
  obtain ⟨ps, read, rfl⟩ := compile_eq_ok_iff.1 compiled
  obtain ⟨segments, scanned, readAll⟩ := pieces_eq_ok_iff.1 read
  have agrees := nodesBefore_eq_between_iff ps none
  rw [Option.toList_none, List.append_nil] at agrees
  rw [ofPieces_eq_nodesBefore]
  exact ⟨segments, ps, scanned, readAll, between_shortened ps none, agrees⟩

/-- Two markers beside a comment, one behind an action and one in front of another, each with a
visible text next to it: every text keeps what its neighbours leave. -/
theorem compile_nodes_eq_between_iff_beside :
    let source := "a \x7b\x7b- /* c */ -\x7d\x7d b \x7b\x7b .x -\x7d\x7d \n c \x7b\x7b- .x \x7d\x7d"
    ∃ t ps, compile "t" source = .ok t ∧ pieces source.toList = .ok ps ∧ ps.length = 6 ∧
      t.nodes = between none none ps ∧ t.render ⟨[("x", .string "-")]⟩ = .ok "ab -c-" := by
  intro source
  have rendered : (compile "t" source >>= (·.render ⟨[("x", .string "-")]⟩)) = .ok "ab -c-" := by
    decide +kernel
  have chained : (pieces source.toList).map (fun ps =>
      (ps.length, decide (ps.IsChain fun q p => p.trimsLeft → q.isSolid))) = .ok (6, true) := by
    decide +kernel
  obtain ⟨t, compiled, rendered⟩ := bind_eq_ok_iff.1 rendered
  obtain ⟨segments, ps, scanned, readAll, -, agrees⟩ := compile_nodes_eq_between_iff compiled
  have read : pieces source.toList = .ok ps := pieces_eq_ok_iff.2 ⟨segments, scanned, readAll⟩
  rw [read] at chained
  obtain ⟨length, each⟩ := Prod.mk.inj (Except.ok.inj chained)
  exact ⟨t, ps, compiled, read, length, agrees.2 (local_of_isChain (of_decide_eq_true each)), rendered⟩

/-- A marker behind a comment takes the white space from the text in front of the comment, which
does not stand next to it. -/
theorem nodes_ne_between_behind_comment :
    ¬∀ (name source : String) (t : Template) (ps : List Piece), compile name source = .ok t →
      pieces source.toList = .ok ps → t.nodes = between none none ps := by
  intro each
  let source := "a \x7b\x7b/* c */\x7d\x7d\x7b\x7b- .x \x7d\x7d"
  let event : Event := ⟨[("x", .string "b")]⟩
  have rendered : (compile "t" source >>= (·.render event)) = .ok "ab" := by decide +kernel
  have meant : (pieces source.toList >>= fun ps => .ok
      (Template.render ⟨"t", source.toList, between none none ps⟩ event)) = .ok (.ok "a b") := by
    decide +kernel
  obtain ⟨t, compiled, rendered⟩ := bind_eq_ok_iff.1 rendered
  obtain ⟨ps, read, meant⟩ := bind_eq_ok_iff.1 meant
  have same := each "t" source t ps compiled read
  obtain ⟨_, -, rfl⟩ := compile_eq_ok_iff.1 compiled
  simp only at same
  rw [same] at rendered
  rw [rendered] at meant
  exact absurd (Except.ok.inj (Except.ok.inj meant)) (by decide)

end Responder.Template
