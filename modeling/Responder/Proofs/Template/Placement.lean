/-
# Responder.Proofs.Template.Placement -- how pieces become nodes

Pieces are placed one by one on what is there already.  Actions are never lost or
made and keep their order (`actions_ofPieces`), and places play no part
(`ofPieces_moved`).  A text that starts with a character that is not white space is a
floor: trimming never takes it away, nor reaches anything below it, and what stands
in front of it in the same text stays as it is (`Continues.foldl_add`).
-/
import Responder.Proofs.Template.Place

namespace Responder.Template

set_option autoImplicit false

/-! ## Trimmed texts -/

theorem trimStart_append_cons {c : Char} (solid : Text.isBlank c = false) (front back : List Char) :
    trimStart (front ++ c :: back) = trimStart front ++ c :: back := by
  have stop : (c :: back).dropWhile Text.isBlank = c :: back := by simp [solid]
  rw [trimStart, trimStart, List.dropWhile_append, stop]
  split
  · rename_i none
    rw [List.isEmpty_iff.1 none, List.nil_append]
  · rfl

theorem trimEnd_append_cons {c : Char} (solid : Text.isBlank c = false) (front back : List Char) :
    trimEnd (front ++ c :: back) = front ++ c :: trimEnd back := by
  have mirrored : (front ++ c :: back).reverse = back.reverse ++ c :: front.reverse := by simp
  have ended := trimStart_append_cons solid back.reverse front.reverse
  rw [trimEnd, mirrored, ← trimStart, ended, trimEnd, ← trimStart]
  simp

theorem textNode_of_ne_nil {chars : List Char} (some : chars ≠ []) : textNode chars = [.text chars] :=
  if_neg some

theorem reverse_textNode (chars : List Char) : (textNode chars).reverse = textNode chars := by
  unfold textNode
  split <;> rfl

/-! ## Actions among nodes -/

/-- The pipeline and the place of a piece that is an action. -/
def Piece.action? : Piece → Option (Pipeline × Nat)
  | .action p place _ => some (p, place)
  | .text _ | .comment _ => none

/-- The pipeline and the place of a node that is an action. -/
def Node.action? : Node → Option (Pipeline × Nat)
  | .action p place => some (p, place)
  | .text _ => none

theorem actions_textNode (chars : List Char) : (textNode chars).filterMap Node.action? = [] := by
  unfold textNode
  split <;> rfl

theorem actions_trimmed (p : Placement) (left : Bool) :
    (p.trimmed left).filterMap Node.action? = p.nodes.filterMap Node.action? := by
  unfold Placement.trimmed trimNewest
  split
  · split
    · rename_i chars rest eq
      rw [eq, List.filterMap_append, actions_textNode]
      rfl
    · rfl
  · rfl

/-- One more piece adds its action, if it is one, to those that are placed. -/
theorem actions_add (p : Placement) (piece : Piece) :
    (p.add piece).nodes.filterMap Node.action? = piece.action?.toList ++ p.nodes.filterMap Node.action? := by
  cases piece with
  | text chars =>
      rw [Placement.add, List.filterMap_append, actions_textNode]
      rfl
  | comment trim => exact actions_trimmed p trim.left
  | action pipeline place trim => exact congrArg ((pipeline, place) :: ·) (actions_trimmed p trim.left)

theorem actions_foldl_add (ps : List Piece) (p : Placement) :
    (ps.foldl Placement.add p).nodes.filterMap Node.action? =
      (ps.filterMap Piece.action?).reverse ++ p.nodes.filterMap Node.action? := by
  induction ps generalizing p with
  | nil => rfl
  | cons piece rest ih =>
      rw [List.foldl_cons, ih, actions_add, List.filterMap_cons]
      cases piece.action? <;> simp

/-- **Every action is placed, in the order of the pieces.** -/
theorem actions_ofPieces (ps : List Piece) :
    (Node.ofPieces ps).filterMap Node.action? = ps.filterMap Piece.action? := by
  rw [Node.ofPieces, List.filterMap_reverse, actions_foldl_add]
  simp

/-- Every action node comes from an action among the pieces. -/
theorem mem_pieces_of_action {pipeline : Pipeline} {place : Nat} {ps : List Piece}
    (member : .action pipeline place ∈ Node.ofPieces ps) : ∃ trim, .action pipeline place trim ∈ ps := by
  have placed : (pipeline, place) ∈ (Node.ofPieces ps).filterMap Node.action? :=
    List.mem_filterMap.2 ⟨_, member, rfl⟩
  rw [actions_ofPieces] at placed
  obtain ⟨piece, inside, same⟩ := List.mem_filterMap.1 placed
  cases piece with
  | text chars => cases same
  | comment trim => cases same
  | action pipeline place trim =>
      cases same
      exact ⟨trim, inside⟩

/-! ## Moved pieces -/

/-- A placement of pieces behind `k` more bytes of source. -/
def Placement.moved (k : Nat) (p : Placement) : Placement := ⟨p.nodes.map (Node.moved k), p.trimNext⟩

theorem map_moved_textNode (k : Nat) (chars : List Char) :
    (textNode chars).map (Node.moved k) = textNode chars := by
  unfold textNode
  split <;> rfl

theorem trimNewest_moved (k : Nat) (nodes : List Node) :
    trimNewest (nodes.map (Node.moved k)) = (trimNewest nodes).map (Node.moved k) := by
  cases nodes with
  | nil => rfl
  | cons node rest =>
      cases node with
      | text chars =>
          rw [List.map_cons, Node.moved, trimNewest, trimNewest, List.map_append, map_moved_textNode]
          simp
      | action pipeline offset => rfl

theorem Placement.add_moved (k : Nat) (p : Placement) (piece : Piece) :
    (p.moved k).add (piece.moved k) = (p.add piece).moved k := by
  have below (left : Bool) : (p.moved k).trimmed left = (p.trimmed left).map (Node.moved k) := by
    cases left with
    | false => rfl
    | true => exact trimNewest_moved k p.nodes
  cases piece with
  | text chars =>
      simp only [Piece.moved, add, moved, List.map_append, map_moved_textNode]
      rfl
  | comment trim =>
      simp only [Piece.moved, add, below]
      rfl
  | action pipeline offset trim =>
      simp only [Piece.moved, add, below]
      rfl

theorem foldl_add_moved (k : Nat) (pieces : List Piece) (p : Placement) :
    (pieces.map (Piece.moved k)).foldl Placement.add (p.moved k) =
      (pieces.foldl Placement.add p).moved k := by
  induction pieces generalizing p with
  | nil => rfl
  | cons piece rest ih => rw [List.map_cons, List.foldl_cons, List.foldl_cons, p.add_moved, ih]

theorem ofPieces_moved (k : Nat) (pieces : List Piece) :
    Node.ofPieces (pieces.map (Piece.moved k)) = (Node.ofPieces pieces).map (Node.moved k) := by
  have moved := foldl_add_moved k pieces ⟨[], false⟩
  rw [Node.ofPieces, Node.ofPieces, List.map_reverse]
  exact congrArg (fun p => p.nodes.reverse) moved

/-! ## Placing on a floor -/

/-- Two lists of nodes, newest first, that differ only at the bottom: one ends in a text that starts
with `c`, and in the other this text goes on what `before` holds and has the nodes `lower` below. -/
def Continues (c : Char) (before : List Char) (lower whole alone : List Node) : Prop :=
  ∃ upper chars, whole = upper ++ .text (before ++ c :: chars) :: lower ∧
    alone = upper ++ [.text (c :: chars)]

section Floor

variable {c : Char} (solid : Text.isBlank c = false) {before : List Char}
  {lower whole alone : List Node}
include solid

theorem Continues.trimNewest (continues : Continues c before lower whole alone) :
    Continues c before lower (trimNewest whole) (trimNewest alone) := by
  obtain ⟨upper, chars, rfl, rfl⟩ := continues
  match upper with
  | [] =>
      have nonempty : before ++ c :: trimEnd chars ≠ [] := by simp
      have alone := trimEnd_append_cons solid [] chars
      simp only [List.nil_append] at alone
      refine ⟨[], trimEnd chars, ?_, ?_⟩
      · simp only [List.nil_append, Template.trimNewest, trimEnd_append_cons solid, textNode_of_ne_nil nonempty,
          List.singleton_append]
      · simp only [List.nil_append, Template.trimNewest, alone, textNode_of_ne_nil (List.cons_ne_nil _ _),
          List.append_nil]
  | .text top :: upper =>
      refine ⟨textNode (trimEnd top) ++ upper, chars, ?_, ?_⟩ <;>
        simp only [List.cons_append, Template.trimNewest, List.append_assoc]
  | .action pipeline offset :: upper => exact ⟨.action pipeline offset :: upper, chars, rfl, rfl⟩

theorem Continues.trimmed {p q : Placement} (continues : Continues c before lower p.nodes q.nodes)
    (left : Bool) : Continues c before lower (p.trimmed left) (q.trimmed left) := by
  cases left with
  | false => exact continues
  | true => exact continues.trimNewest solid

theorem Continues.add {p q : Placement} (continues : Continues c before lower p.nodes q.nodes)
    (same : p.trimNext = q.trimNext) (piece : Piece) :
    Continues c before lower (p.add piece).nodes (q.add piece).nodes := by
  cases piece with
  | text chars =>
      obtain ⟨upper, rest, whole, alone⟩ := continues
      exact ⟨textNode (if q.trimNext then trimStart chars else chars) ++ upper, rest,
        by simp [Placement.add, whole, same], by simp [Placement.add, alone]⟩
  | comment trim => exact continues.trimmed solid trim.left
  | action pipeline offset trim =>
      obtain ⟨upper, rest, whole, alone⟩ := continues.trimmed solid trim.left
      exact ⟨.action pipeline offset :: upper, rest, by simp [Placement.add, whole],
        by simp [Placement.add, alone]⟩

/-- Whatever is placed on a floor, it stays one. -/
theorem Continues.foldl_add {p q : Placement} (continues : Continues c before lower p.nodes q.nodes)
    (same : p.trimNext = q.trimNext) (pieces : List Piece) :
    Continues c before lower (pieces.foldl Placement.add p).nodes (pieces.foldl Placement.add q).nodes := by
  induction pieces generalizing p q with
  | nil => exact continues
  | cons piece rest ih =>
      have next : (p.add piece).trimNext = (q.add piece).trimNext := by cases piece <;> rfl
      exact ih (continues.add solid same piece) next

end Floor

end Responder.Template
