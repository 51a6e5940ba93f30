/-
# Responder.Proofs.Template.Order -- actions stay in the order of the source

Each action of a source stands further back than the one before it
(`places_of_scanFrom`), and reading their tokens keeps these places
(`places_of_pieces`).  So the action nodes of a template, which come in the order of
the pieces, come in that of the source, and each is what stands in its place there
(`exists_stands`).
-/
import Responder.Proofs.Template.Placement
import Responder.Proofs.Template.Opening

namespace Responder.Template

set_option autoImplicit false

variable {offset : Nat} {cs : List Char}

/-- The place of a segment that is an action. -/
def Segment.place? : Segment → Option Nat
  | .action _ place _ => some place
  | .text _ | .comment _ => none

/-! ## Places -/

/-- **Places only grow** from an action to the next. -/
theorem places_of_scanFrom {segments : List Segment} (scanned : scanFrom offset cs = .ok segments) :
    (segments.filterMap Segment.place?).Pairwise (· < ·) := by
  have noPlace (chars : List Char) : (textSegment chars).filterMap Segment.place? = [] := by
    unfold textSegment
    split <;> rfl
  revert segments
  fun_induction scanFrom offset cs with
  | case1 offset cs unopened =>
      intro segments scanned
      cases scanned
      rw [noPlace]
      exact .nil
  | case2 => simp
  | case3 offset cs body opened start segment rest read =>
      rename_i ih
      intro segments scanned
      obtain ⟨later, scannedLater, eq⟩ := map_eq_ok_iff.1 scanned
      cases eq
      rw [List.filterMap_append, noPlace, List.nil_append, List.filterMap_cons]
      obtain ⟨trim, rfl⟩ | ⟨tokens, trim, rfl⟩ := segment_of_action read
      · exact ih scannedLater
      · refine List.pairwise_cons.2 ⟨fun place member => ?_, ih scannedLater⟩
        obtain ⟨s, inside, placed⟩ := List.mem_filterMap.1 member
        cases s with
        | text chars => cases placed
        | comment trim => cases placed
        | action tokens' place' trim' =>
            cases placed
            have := (offset_of_mem_scanFrom scannedLater inside).1
            omega

/-- Reading keeps the places of actions. -/
theorem places_of_mapM_read {segments : List Segment} {ps : List Piece}
    (read : segments.mapM Segment.read = .ok ps) :
    (ps.filterMap Piece.action?).map Prod.snd = segments.filterMap Segment.place? := by
  have each := mapM_eq_ok_iff.1 read
  clear read
  induction each with
  | nil => rfl
  | @cons segment piece later after here _ ih =>
      rw [List.filterMap_cons, List.filterMap_cons]
      cases segment with
      | text chars =>
          cases here
          exact ih
      | comment trim =>
          cases here
          exact ih
      | action tokens place trim =>
          obtain ⟨p, -, made⟩ := bind_eq_ok_iff.1 here
          cases made
          exact congrArg (place :: ·) ih

/-! ## The actions of a source -/

theorem pieces_eq_ok_iff {source : List Char} {ps : List Piece} :
    pieces source = .ok ps ↔ ∃ segments, scan source = .ok segments ∧ segments.mapM Segment.read = .ok ps := by
  rw [pieces, bind_eq_ok_iff]
  cases scan source with
  | error flaw => simp [Except.mapError]
  | ok segments => simp [Except.mapError]

theorem pieces_eq_error_iff {source : List Char} {e : SyntaxError} : pieces source = .error e ↔
    (∃ flaw, scan source = .error flaw ∧ e = .flaw flaw) ∨
      ∃ segments, scan source = .ok segments ∧ segments.mapM Segment.read = .error e := by
  rw [pieces, bind_eq_error_iff]
  cases scan source with
  | error flaw => simp [Except.mapError, eq_comm]
  | ok segments => simp [Except.mapError]

theorem compile_eq_error_iff {name source : String} {e : Error} : compile name source = .error e ↔
    ∃ error, pieces source.toList = .error error ∧ e = error.located name source.toList := by
  unfold compile
  cases pieces source.toList with
  | error error => simp [eq_comm]
  | ok ps => simp

/-- A pipeline is that of the action behind a text: braces open there, and it is what the tokens
read from there make. -/
def Stands (source before : List Char) (p : Pipeline) : Prop :=
  ∃ body tokens trim rest, source = before ++ '\x7b' :: '\x7b' :: body ∧
    action (byteCount before) body = .ok (.action tokens (byteCount before) trim, rest) ∧
    Pipeline.ofTokens (byteCount before) tokens = .ok p

theorem exists_stands {ps : List Piece} (read : pieces cs = .ok ps) {p : Pipeline} {place : Nat}
    (member : .action p place ∈ Node.ofPieces ps) :
    ∃ before, Stands cs before p ∧ place = byteCount before := by
  obtain ⟨segments, scanned, readAll⟩ := pieces_eq_ok_iff.1 read
  obtain ⟨trim, piece⟩ := mem_pieces_of_action member
  obtain ⟨segment, inside, readOne⟩ := exists_mem_of_mapM_eq_ok readAll piece
  cases segment with
  | text chars => cases readOne
  | comment trim => cases readOne
  | action tokens place trim =>
      obtain ⟨p, made, same⟩ := bind_eq_ok_iff.1 readOne
      cases same
      obtain ⟨before, body, rest, opens, here, readHere⟩ := exists_opens_of_mem_scanFrom scanned inside
      rw [Nat.zero_add] at here
      subst here
      exact ⟨before, ⟨body, tokens, trim, rest, opens.split, readHere, made⟩, rfl⟩

theorem places_of_pieces {ps : List Piece} (read : pieces cs = .ok ps) :
    (ps.filterMap Piece.action?).Pairwise fun a b => a.2 < b.2 := by
  obtain ⟨segments, scanned, readAll⟩ := pieces_eq_ok_iff.1 read
  have grow := places_of_scanFrom scanned
  rw [← places_of_mapM_read readAll] at grow
  exact List.pairwise_map.1 grow

end Responder.Template
