/-
# Responder.Proofs.Template.Tiling -- the segments of a source tile it

Put in a row, what the segments of a source were read from is the source: each text
itself, and for each action and comment a piece between double braces (`Tiled`).  A
piece is read alone as it is read in its place (`scan_of_action`), and its tokens
stand in order inside it (`standIn_of_actionTokens`).
-/
import Mathlib.Data.List.Chain
import Responder.Proofs.Template.Cut

namespace Responder.Template

set_option autoImplicit false

variable {offset : Nat} {cs rest : List Char}

/-! ## Tokens inside an action -/

theorem byteCount_sub_of_append {front back : List Char} (whole : front ++ back = cs) :
    byteCount cs - byteCount back = byteCount front := by
  rw [← whole, byteCount_append, Nat.add_sub_cancel]

/-- Tokens stand in a text, which starts at `offset`: one behind another, and each in front of a
character of the text. -/
structure StandIn (offset : Nat) (cs : List Char) (tokens : List Placed) : Prop where
  inOrder : (tokens.map Placed.offset).Pairwise (· < ·)
  inside : ∀ t ∈ tokens, ∃ before behind, cs = before ++ behind ∧ behind ≠ [] ∧
    t.offset = offset + byteCount before

theorem StandIn.append_left {tokens : List Placed} {front : List Char}
    (stand : StandIn (offset + byteCount front) cs tokens) : StandIn offset (front ++ cs) tokens := by
  refine ⟨stand.inOrder, fun t member => ?_⟩
  obtain ⟨before, behind, rfl, some, place⟩ := stand.inside t member
  refine ⟨front ++ before, behind, (List.append_assoc _ _ _).symm, some, ?_⟩
  rw [place, byteCount_append, Nat.add_assoc]

/-- One token in front of others, with some text of its own. -/
theorem StandIn.cons {tokens : List Placed} {own : List Char} (some : own ≠ []) (token : Token)
    (stand : StandIn (offset + byteCount own) cs tokens) :
    StandIn offset (own ++ cs) (⟨token, offset⟩ :: tokens) := by
  have first : own ++ cs ≠ [] := List.append_ne_nil_of_left_ne_nil some cs
  have size : 0 < byteCount own := by
    obtain ⟨c, own, rfl⟩ := List.exists_cons_of_ne_nil some
    exact Nat.add_pos_left c.utf8Size_pos _
  refine ⟨List.pairwise_cons.2 ⟨fun place member => ?_, stand.inOrder⟩, fun t member => ?_⟩
  · obtain ⟨t, isLater, rfl⟩ := List.mem_map.1 member
    obtain ⟨before, -, -, -, place⟩ := stand.inside t isLater
    show offset < t.offset
    omega
  · rcases List.mem_cons.1 member with rfl | isLater
    · exact ⟨[], own ++ cs, rfl, first, rfl⟩
    · exact stand.append_left.inside t isLater

/-- The tokens of an action stand in front of the braces that close it. -/
theorem standIn_of_actionTokens {start : Nat} {spaced trim : Bool} {tokens : List Placed} {body : List Char}
    (read : actionTokens start offset spaced cs = .ok (tokens, trim, rest))
    (closed : body ++ '\x7d' :: '\x7d' :: rest = cs) : StandIn offset body tokens := by
  fun_induction actionTokens start offset spaced cs generalizing tokens body with
  | case1 offset spaced cs trim rest found =>
      cases read
      exact ⟨.nil, fun t member => absurd member List.not_mem_nil⟩
  | case2 | case3 => cases read
  | case4 offset spaced cs unclosed some t behind taken ih =>
      obtain ⟨⟨later, trim', rest'⟩, readLater, eq⟩ := map_eq_ok_iff.1 read
      cases eq
      obtain ⟨inner, isInner⟩ := closedBefore_of_actionTokens readLater
      -- the token and the blanks behind it
      obtain ⟨own, isOwn⟩ := (skipSpace_suffix behind).trans (takeToken_suffix taken)
      have ownSome : own ≠ [] := by
        rintro rfl
        have shorter := takeToken_length taken
        have blanks := skipSpace_length behind
        rw [List.nil_append] at isOwn
        rw [isOwn] at blanks
        exact absurd shorter (Nat.not_lt.2 blanks)
      have stand := ih readLater isInner
      rw [byteCount_sub_of_append isOwn] at stand
      obtain rfl : body = own ++ inner := by
        rw [← isOwn, ← isInner, ← List.append_assoc] at closed
        exact List.append_cancel_right closed
      exact stand.cons ownSome t

/-- The tokens of an action stand between its braces. -/
theorem standIn_of_action {start place : Nat} {tokens : List Placed} {trim : Trim} {inner : List Char}
    (read : action start (inner ++ ['\x7d', '\x7d']) = .ok (.action tokens place trim, [])) :
    StandIn (start + 2) inner tokens := by
  generalize whole : inner ++ ['\x7d', '\x7d'] = body at read
  obtain ⟨front, isFront⟩ := (skipSpace_suffix (takeTrim body).2).trans (takeTrim_suffix body)
  unfold action at read
  dsimp only at read
  split at read
  · rename_i inside opened
    obtain ⟨trim', isComment⟩ := segment_of_comment read
    cases isComment
  · obtain ⟨⟨tokens', trimRight, after⟩, tokensRead, eq⟩ := map_eq_ok_iff.1 read
    cases eq
    rw [byteCount_sub_of_append isFront] at tokensRead
    obtain ⟨behind, isBehind⟩ := closedBefore_of_actionTokens tokensRead
    obtain rfl : inner = front ++ behind := by
      rw [← isFront, ← isBehind, ← List.append_assoc] at whole
      exact List.append_cancel_right whole
    exact (standIn_of_actionTokens tokensRead isBehind).append_left

/-! ## Pieces -/

theorem splitOpening_begins (cs : List Char) : (splitOpening cs).1 <+: cs := by
  fun_induction splitOpening cs with
  | case1 rest => exact List.nil_prefix
  | case2 c cs noOpening ih => exact (List.prefix_cons_inj c).2 ih
  | case3 => exact List.nil_prefix

/-- No braces open in the text in front of the first that do. -/
theorem splitOpening_unopened (cs : List Char) : ¬ ['\x7b', '\x7b'] <:+: (splitOpening cs).1 := by
  fun_induction splitOpening cs with
  | case1 rest => simp
  | case2 c cs noOpening ih =>
      intro opens
      rcases List.infix_cons_iff.1 opens with first | later
      · obtain ⟨rfl, second⟩ := List.cons_prefix_cons.1 first
        obtain ⟨tail, rfl⟩ := second.trans (splitOpening_begins cs)
        exact noOpening tail rfl rfl
      · exact ih later
  | case3 => simp

/-- What stands between double braces and is read to its end is all of a source. -/
theorem scan_of_action {body : List Char} {segment : Segment} (read : action 0 body = .ok (segment, [])) :
    scan ('\x7b' :: '\x7b' :: body) = .ok [segment] := by
  have opened : splitOpening ('\x7b' :: '\x7b' :: body) = ([], some body) := rfl
  rw [scan, scanFrom_action opened read, scanFrom_text rfl]
  rfl

/-- A segment and the piece of source that it was read from, with `offset` bytes in front: a text
itself, or an action or comment between double braces, which is read alone as it is read there. -/
inductive Tile (offset : Nat) : Segment → List Char → Prop where
  | text {chars : List Char} (some : chars ≠ []) (unopened : ¬ ['\x7b', '\x7b'] <:+: chars) :
      Tile offset (.text chars) chars
  | action {tokens : List Placed} {trim : Trim} {inner : List Char}
      (alone : scan ('\x7b' :: '\x7b' :: (inner ++ ['\x7d', '\x7d'])) = .ok [.action tokens 0 trim])
      (stand : StandIn (offset + 2) inner (tokens.map (Placed.moved offset))) :
      Tile offset (.action (tokens.map (Placed.moved offset)) offset trim)
        ('\x7b' :: '\x7b' :: (inner ++ ['\x7d', '\x7d']))
  | comment {trim : Trim} {inner : List Char}
      (alone : scan ('\x7b' :: '\x7b' :: (inner ++ ['\x7d', '\x7d'])) = .ok [.comment trim]) :
      Tile offset (.comment trim) ('\x7b' :: '\x7b' :: (inner ++ ['\x7d', '\x7d']))

/-- An action or comment that was read is a tile. -/
theorem tile_of_action {start : Nat} {segment : Segment} {body : List Char}
    (read : action start (body ++ rest) = .ok (segment, rest)) :
    Tile start segment ('\x7b' :: '\x7b' :: body) := by
  have cut := action_cut read
  obtain ⟨inner, rfl⟩ := closedBefore_of_action cut
  have moved := action_moved start 0 (inner ++ ['\x7d', '\x7d'])
  rw [Nat.add_zero, cut] at moved
  rcases here : action 0 (inner ++ ['\x7d', '\x7d']) with flaw | ⟨alone, left⟩ <;> rw [here] at moved
  · cases moved
  · cases moved
    have scanned := scan_of_action here
    obtain ⟨trim, rfl⟩ | ⟨tokens, trim, rfl⟩ := segment_of_action here
    · exact .comment scanned
    · exact .action scanned (standIn_of_action cut)

/-! ## Tiles in a row -/

/-- Segments and their pieces, each a tile with the pieces before it in front. -/
inductive Tiled : Nat → List (Segment × List Char) → Prop where
  | nil (offset : Nat) : Tiled offset []
  | cons {offset : Nat} {segment : Segment} {piece : List Char} {tiles : List (Segment × List Char)}
      (here : Tile offset segment piece) (behind : Tiled (offset + byteCount piece) tiles) :
      Tiled offset ((segment, piece) :: tiles)

/-- The source that tiles are pieces of. -/
def sourceOf (tiles : List (Segment × List Char)) : List Char := (tiles.map Prod.snd).flatten

theorem Tiled.tile {front back : List (Segment × List Char)} {segment : Segment} {piece : List Char}
    (tiled : Tiled offset (front ++ (segment, piece) :: back)) :
    Tile (offset + byteCount (sourceOf front)) segment piece := by
  induction front generalizing offset with
  | nil =>
      cases tiled with
      | cons here _ => exact here
  | cons first front ih =>
      cases tiled with
      | cons _ behind =>
          have later := ih behind
          rw [sourceOf, List.map_cons, List.flatten_cons, byteCount_append, ← Nat.add_assoc]
          exact later

/-- A text in front of tiles is one more, unless it is empty. -/
theorem Tiled.behind_text {tiles : List (Segment × List Char)} {chars : List Char}
    (unopened : ¬ ['\x7b', '\x7b'] <:+: chars) (tiled : Tiled (offset + byteCount chars) tiles) :
    ∃ more, more.map Prod.fst = textSegment chars ++ tiles.map Prod.fst ∧
      sourceOf more = chars ++ sourceOf tiles ∧ Tiled offset more := by
  unfold textSegment
  split
  · rename_i none
    subst none
    exact ⟨tiles, rfl, rfl, tiled⟩
  · rename_i some
    exact ⟨(.text chars, chars) :: tiles, rfl, rfl, .cons (.text some unopened) tiled⟩

theorem tiled_of_scanFrom {segments : List Segment} (scanned : scanFrom offset cs = .ok segments) :
    ∃ tiles, tiles.map Prod.fst = segments ∧ sourceOf tiles = cs ∧ Tiled offset tiles := by
  revert segments
  fun_induction scanFrom offset cs with
  | case1 offset cs unopened =>
      intro segments scanned
      cases scanned
      have all := (Tiled.nil (offset + byteCount (splitOpening cs).1)).behind_text (splitOpening_unopened cs)
      rw [splitOpening_fst_of_none unopened] at all ⊢
      simpa only [sourceOf, List.map_nil, List.flatten_nil, List.append_nil] using all
  | case2 => simp
  | case3 offset cs body opened start segment rest read =>
      rename_i ih
      intro segments scanned
      obtain ⟨later, scannedLater, eq⟩ := map_eq_ok_iff.1 scanned
      cases eq
      obtain ⟨tiles, rfl, rfl, tiled⟩ := ih scannedLater
      obtain ⟨taken, rfl⟩ := action_suffix read
      have size : start + 2 + (byteCount (taken ++ sourceOf tiles) - byteCount (sourceOf tiles)) =
          start + byteCount ('\x7b' :: '\x7b' :: taken) := by
        have brace : ('\x7b' : Char).utf8Size = 1 := rfl
        rw [byteCount_sub_of_append rfl, byteCount, byteCount, brace]
        omega
      rw [size] at tiled
      obtain ⟨more, firsts, pieces, isTiled⟩ :=
        (tiled.cons (tile_of_action read)).behind_text (splitOpening_unopened cs)
      exact ⟨more, firsts, pieces.trans (splitOpening_eq opened).symm, isTiled⟩

/-! ## Tiling -/

/-- Whether a segment is a text. -/
def Segment.isText : Segment → Bool
  | .text _ => true
  | .action _ _ _ | .comment _ => false

/-- Between two texts there is an action or a comment. -/
theorem apart_of_scanFrom {segments : List Segment} (scanned : scanFrom offset cs = .ok segments) :
    segments.IsChain fun s t => ¬ (s.isText && t.isText) := by
  revert segments
  fun_induction scanFrom offset cs with
  | case1 offset cs unopened =>
      intro segments scanned
      cases scanned
      unfold textSegment
      split
      · exact .nil
      · exact .singleton _
  | case2 => simp
  | case3 offset cs body opened start segment rest read =>
      rename_i ih
      intro segments scanned
      obtain ⟨later, scannedLater, eq⟩ := map_eq_ok_iff.1 scanned
      cases eq
      have noText : segment.isText = false := by
        obtain ⟨trim, rfl⟩ | ⟨tokens, trim, rfl⟩ := segment_of_action read <;> rfl
      have behind : (segment :: later).IsChain fun s t => ¬ (s.isText && t.isText) :=
        (ih scannedLater).cons fun t _ => by rw [noText]; exact Bool.false_ne_true
      unfold textSegment
      split
      · exact behind
      · refine behind.cons fun t first => ?_
        cases first
        rw [noText, Bool.and_false]
        exact Bool.false_ne_true

/-- **The segments of a source tile it.**  Wherever a source can be scanned, it is its segments'
pieces in a row:

* a text is its own piece, is not empty and holds no opening braces;
* an action or comment has a piece in double braces that is scanned alone as just that segment,
  with places counted from where the piece starts;
* an action's place is the length of all pieces before it, and its tokens stand one behind another
  between its braces, each where a character starts;
* and no text follows a text. -/
theorem scan_tiles {source : List Char} {segments : List Segment} (scanned : scan source = .ok segments) :
    ∃ tiles : List (Segment × List Char), tiles.map Prod.fst = segments ∧ sourceOf tiles = source ∧
      (∀ front segment piece back, tiles = front ++ (segment, piece) :: back →
        Tile (byteCount (sourceOf front)) segment piece) ∧
      segments.IsChain fun s t => ¬ (s.isText && t.isText) := by
  obtain ⟨tiles, firsts, pieces, tiled⟩ := tiled_of_scanFrom scanned
  refine ⟨tiles, firsts, pieces, ?_, apart_of_scanFrom scanned⟩
  rintro front segment piece back rfl
  have tile := tiled.tile
  rwa [Nat.zero_add] at tile

/-- Behind a text of two bytes stand a comment about actions and an action with closing braces in a
string, and behind these a text that starts and ends in a brace. -/
theorem scan_tiles_hostile :
    let source := ("é\x7b\x7b- /* \x7b\x7b x \x7d\x7d */ -\x7d\x7d" ++
      "\x7b\x7b\"\x7d\x7dé\" |field .ñ.b -\x7d\x7d\x7d tail \x7b").toList
    let places (s : Segment) : List Nat := match s with
      | .action tokens place _ => place :: tokens.map Placed.offset
      | _ => []
    ∃ segments tiles, scan source = .ok segments ∧
      segments.map places = [[], [], [23, 25, 32, 33, 39], []] ∧
      tiles.map Prod.fst = segments ∧ sourceOf tiles = source ∧
      (∀ front segment piece back, tiles = front ++ (segment, piece) :: back →
        Tile (byteCount (sourceOf front)) segment piece) ∧
      segments.map Segment.isText = [true, false, false, true] := by
  intro source places
  have read : (scan source).map (fun segments => (segments.map places, segments.map Segment.isText)) =
      .ok ([[], [], [23, 25, 32, 33, 39], []], [true, false, false, true]) := by decide +kernel
  obtain ⟨segments, scanned, told⟩ := map_eq_ok_iff.1 read
  obtain ⟨placed, texts⟩ := Prod.mk.inj told
  obtain ⟨tiles, firsts, pieces, each, -⟩ := scan_tiles scanned
  exact ⟨segments, tiles, scanned, placed, firsts, pieces, each, texts⟩

end Responder.Template
