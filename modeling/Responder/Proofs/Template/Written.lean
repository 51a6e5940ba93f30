/-
# Responder.Proofs.Template.Written -- what is written as an action compiles to it

`Written` says how tokens are written out: a gap of blanks before each and one at
the end, of any blanks and any length.  Between double braces, with or without
trim marks, such a text is one action with these tokens (`scan_written`), because
every token is read back and leaves the gap behind it (`takeToken_source`).  With
the grammar of tokens this makes `compile_written`: a pipeline that is written out
and compiled is the one that was written.
-/
import Responder.Proofs.Template.Reading
import Responder.Proofs.Template.Scan
import Responder.Proofs.Template.Source
import Responder.Template.Basic

namespace Responder.Template

set_option autoImplicit false

/-- What separates tokens: some blanks, at least one. -/
def IsGap (gap : List Char) : Prop := gap ≠ [] ∧ ∀ c ∈ gap, isSpace c = true

/-- Tokens written out, with a gap before each and one at the end. -/
inductive Written : List Token → List Char → Prop where
  | nil {gap : List Char} : IsGap gap → Written [] gap
  | cons {gap cs : List Char} {t : Token} {ts : List Token} :
      IsGap gap → Written ts cs → Written (t :: ts) (gap ++ t.source ++ cs)

/-- The trim mark, if it is wanted. -/
def trimMark (trim : Bool) : List Char := if trim then ['-'] else []

/-- An action around a text. -/
def braced (left : Bool) (inside : List Char) (right : Bool) : List Char :=
  '\x7b' :: '\x7b' :: (trimMark left ++ inside ++ trimMark right ++ ['\x7d', '\x7d'])

/-! ## Gaps -/

theorem IsGap.blankFirst {gap : List Char} (isGap : IsGap gap) (cs : List Char) :
    BlankFirst (gap ++ cs) := by
  obtain ⟨some, spaces⟩ := isGap
  cases gap with
  | nil => exact absurd rfl some
  | cons c gap => exact ⟨c, gap ++ cs, rfl, spaces c (by simp)⟩

theorem IsGap.skipSpace_append {gap : List Char} (isGap : IsGap gap) (cs : List Char) :
    skipSpace (gap ++ cs) = skipSpace cs :=
  List.dropWhile_append_of_pos isGap.2

theorem IsGap.skipSpace_length_lt {gap : List Char} (isGap : IsGap gap) (cs : List Char) :
    (skipSpace (gap ++ cs)).length < (gap ++ cs).length := by
  have := skipSpace_length cs
  have := List.length_pos_iff.2 isGap.1
  rw [isGap.skipSpace_append, List.length_append]
  omega

theorem Written.exists_gap {ts : List Token} {cs : List Char} (written : Written ts cs) :
    ∃ gap rest, IsGap gap ∧ cs = gap ++ rest := by
  cases written with
  | nil isGap => exact ⟨_, [], isGap, by simp⟩
  | cons isGap _ => exact ⟨_, _, isGap, List.append_assoc _ _ _⟩

/-! ## Scanning -/

theorem closing?_trimMark (trim : Bool) :
    closing? true (skipSpace (trimMark trim ++ ['\x7d', '\x7d'])) = some (trim, []) := by
  cases trim <;> rfl

/-- From behind the first gap on, what is written is read as its tokens. -/
theorem actionTokens_written {ts : List Token} {cs : List Char} (written : Written ts cs)
    (writable : ∀ t ∈ ts, t.Writable) (trim : Bool) (start offset : Nat) :
    ∃ tokens, actionTokens start offset true (skipSpace (cs ++ (trimMark trim ++ ['\x7d', '\x7d']))) =
        .ok (tokens, trim, []) ∧ tokens.map Placed.token = ts := by
  induction written generalizing offset with
  | nil isGap =>
      refine ⟨[], ?_, rfl⟩
      rw [isGap.skipSpace_append, actionTokens, closing?_trimMark]
  | @cons gap cs t ts isGap written ih =>
      obtain ⟨next, rest, nextIsGap, eq⟩ := written.exists_gap
      let behind := cs ++ (trimMark trim ++ ['\x7d', '\x7d'])
      have behind_eq : behind = next ++ (rest ++ (trimMark trim ++ ['\x7d', '\x7d'])) := by
        simp [behind, eq]
      have taken (place : Nat) : takeToken place (t.source ++ behind) = .ok (t, behind) := by
        rw [behind_eq]
        exact takeToken_source place (writable t (by simp)) (nextIsGap.blankFirst _)
      have spaced : decide ((skipSpace behind).length < behind.length) = true := by
        rw [behind_eq]
        exact decide_eq_true (nextIsGap.skipSpace_length_lt _)
      obtain ⟨tokens, read, same⟩ := ih (fun u member => writable u (List.mem_cons_of_mem _ member))
        (offset + (byteCount (t.source ++ behind) - byteCount (skipSpace behind)))
      refine ⟨⟨t, offset⟩ :: tokens, ?_, by simp [same]⟩
      rw [List.append_assoc, List.append_assoc, isGap.skipSpace_append,
        skipSpace_of_takeToken (taken offset), actionTokens_cons (taken offset), spaced, read]
      rfl

/-- What is written does not start as a comment does. -/
theorem no_comment_of_written {ts : List Token} {cs : List Char} (written : Written ts cs)
    (writable : ∀ t ∈ ts, t.Writable) (trim : Bool) (inside : List Char) :
    skipSpace (cs ++ (trimMark trim ++ ['\x7d', '\x7d'])) ≠ '/' :: '*' :: inside := by
  intro eq
  obtain ⟨tokens, read, -⟩ := actionTokens_written written writable trim 0 0
  have closed : closing? true ('/' :: '*' :: inside) = none := rfl
  rw [eq, actionTokens, closed] at read
  simp only [reduceCtorEq, if_false] at read
  split at read
  · cases read
  · rename_i taken
    rw [takeToken_unexpected 0 _ (.inr (.inr rfl))] at taken
    cases taken

theorem takeTrim_trimMark (trim : Bool) {cs : List Char} (blank : BlankFirst cs) :
    takeTrim (trimMark trim ++ cs) = (trim, cs) := by
  obtain ⟨c, rest, rfl, space⟩ := blank
  cases trim with
  | true => simp [trimMark, takeTrim, space]
  | false =>
      rw [trimMark, if_neg (by simp), List.nil_append, takeTrim.eq_2]
      rintro d ds eq
      rw [(List.cons.inj eq).1] at space
      exact absurd space (by decide)

theorem action_written {ts : List Token} {cs : List Char} (written : Written ts cs)
    (writable : ∀ t ∈ ts, t.Writable) (left right : Bool) (start : Nat) :
    ∃ tokens, action start (trimMark left ++ cs ++ trimMark right ++ ['\x7d', '\x7d']) =
        .ok (.action tokens start ⟨left, right⟩, []) ∧ tokens.map Placed.token = ts := by
  let behind := cs ++ (trimMark right ++ ['\x7d', '\x7d'])
  have split_mark : takeTrim (trimMark left ++ cs ++ trimMark right ++ ['\x7d', '\x7d']) =
      (left, behind) := by
    obtain ⟨gap, rest, isGap, rfl⟩ := written.exists_gap
    rw [List.append_assoc, List.append_assoc]
    apply takeTrim_trimMark
    rw [List.append_assoc]
    exact isGap.blankFirst _
  have spaced : decide ((skipSpace behind).length < behind.length) = true := by
    obtain ⟨gap, rest, isGap, eq⟩ := written.exists_gap
    simp only [behind, eq, List.append_assoc]
    exact decide_eq_true (isGap.skipSpace_length_lt _)
  obtain ⟨tokens, read, same⟩ := actionTokens_written written writable right start
    (start + 2 + (byteCount (trimMark left ++ cs ++ trimMark right ++ ['\x7d', '\x7d']) -
      byteCount (skipSpace behind)))
  refine ⟨tokens, ?_, same⟩
  unfold action
  simp only [split_mark]
  split
  · rename_i inside eq
    exact absurd eq (no_comment_of_written written writable right inside)
  · rw [spaced, read]
    rfl

/-- **Tokens written between braces are scanned as one action that has these tokens.** -/
theorem scan_written {ts : List Token} {cs : List Char} (written : Written ts cs)
    (writable : ∀ t ∈ ts, t.Writable) (left right : Bool) :
    ∃ tokens, scan (braced left cs right) = .ok [.action tokens 0 ⟨left, right⟩] ∧
      tokens.map Placed.token = ts := by
  obtain ⟨tokens, read, same⟩ := action_written written writable left right 0
  refine ⟨tokens, ?_, same⟩
  have opened : splitOpening (braced left cs right) =
      ([], some (trimMark left ++ cs ++ trimMark right ++ ['\x7d', '\x7d'])) := rfl
  rw [scan, scanFrom_action opened read, scanFrom_text rfl]
  rfl

/-- **A pipeline that is written out as an action and compiled is the one that was written.** -/
theorem compile_written (name : String) (p : Pipeline) {inside : List Char}
    (writable : ∀ t ∈ p.tokens, t.Writable) (written : Written p.tokens inside)
    (left right : Bool) :
    compile name (String.ofList (braced left inside right)) =
      .ok ⟨name, braced left inside right, [.action p 0]⟩ := by
  obtain ⟨tokens, scanned, same⟩ := scan_written written writable left right
  have parsed : Pipeline.ofTokens 0 tokens = .ok p := Pipeline.ofTokens_eq_ok_iff.2 same
  have read : pieces (braced left inside right) = .ok [.action p 0 ⟨left, right⟩] := by
    rw [pieces, scanned]
    simp only [Except.mapError, bind, Except.bind, List.mapM_cons, Segment.read, parsed]
    rfl
  rw [compile, String.toList_ofList, read]
  cases left <;> rfl

/-- A string that holds closing braces, a comment mark and all that is escaped, piped into a
call on a group, between trim marks and with four kinds of blank. -/
theorem compile_written_awkward :
    let text := "\x7d\x7d -\x7d\x7d /* \" \\ \n"
    let group : Pipeline :=
      .field (.chain ["Razón", "código_1"]) (.literal (.number (.integer (-9) (by decide))))
    let p : Pipeline := .pipe (.value (.literal (.text text))) (.group group)
    let inside := " \t\"\x7d\x7d -\x7d\x7d /* \\\" \\\\ \\n\"\r\n| field ( field .Razón.código_1 -9 )\n".toList
    (∀ t ∈ p.tokens, t.Writable) ∧ Written p.tokens inside ∧
      compile "t" (String.ofList (braced true inside true)) =
        .ok ⟨"t", braced true inside true, [.action p 0]⟩ := by
  intro text group p inside
  have names : ∀ name ∈ ["Razón", "código_1"], IsName name := by
    intro name member
    simp only [List.mem_cons, List.not_mem_nil, or_false] at member
    rcases member with rfl | rfl
    · exact ⟨'R', ['a', 'z', 'ó', 'n'], rfl, by decide, List.all_eq_true.1 (by decide)⟩
    · exact ⟨'c', ['ó', 'd', 'i', 'g', 'o', '_', '1'], rfl, by decide, List.all_eq_true.1 (by decide)⟩
  have called : (Token.name fieldName).Writable :=
    ⟨⟨'f', ['i', 'e', 'l', 'd'], rfl, by decide, List.all_eq_true.1 (by decide)⟩, by decide⟩
  have writable : ∀ t ∈ p.tokens, t.Writable := by
    intro t member
    simp only [p, group, Pipeline.tokens, Operand.tokens, Literal.token, List.mem_cons, List.mem_append,
      List.not_mem_nil, or_false] at member
    obtain rfl | rfl | rfl | rfl | (rfl | rfl | rfl) | rfl := member
    · trivial
    · trivial
    · exact called
    · trivial
    · exact called
    · exact ⟨by simp, names⟩
    · show (-9 : Int) < 2 ^ 63
      decide
    · trivial
  have gap (c : Char) (space : isSpace c = true) : IsGap [c] := ⟨by simp, by simpa using space⟩
  have space := gap ' ' rfl
  have written : Written p.tokens inside := by
    have spelled : inside = [' ', '\t'] ++ (Token.text text).source ++ (['\r', '\n'] ++
        Token.pipe.source ++ ([' '] ++ (Token.name fieldName).source ++ ([' '] ++
        Token.openParen.source ++ ([' '] ++ (Token.name fieldName).source ++ ([' '] ++
        (Token.chain ["Razón", "código_1"]).source ++ ([' '] ++
        (Token.number (.integer (-9) (by decide))).source ++ ([' '] ++ Token.closeParen.source ++
        ['\n']))))))) := by
      decide +kernel
    rw [spelled]
    have first : IsGap [' ', '\t'] := ⟨by simp, List.all_eq_true.1 rfl⟩
    have second : IsGap ['\r', '\n'] := ⟨by simp, List.all_eq_true.1 rfl⟩
    exact .cons first (.cons second (.cons space (.cons space
      (.cons space (.cons space (.cons space (.cons space (.nil (gap '\n' rfl)))))))))
  exact ⟨writable, written, compile_written "t" p writable written true true⟩

end Responder.Template
