/-
# Responder.Proofs.Template.Grammar -- an action is accepted exactly if the grammar writes it

`Pipeline.ofTokens_accepts_grammar` joins the reader to the grammar of commands:
what is accepted, as which pipeline, and what the errors about functions and
arguments say of the tokens that are refused (`SyntaxError.AboutTokens`).
-/
import Responder.Proofs.Template.Reading
import Responder.Template.Basic

namespace Responder.Template

set_option autoImplicit false

/-! ## Errors -/

/-- What an error about functions and arguments may say of tokens: the function is
one of their names but not `field`, and the number of arguments is not that of `field`. -/
def SyntaxError.AboutTokens (ts : List Token) : SyntaxError → Prop
  | .flaw _ => True
  | .unknownFunction function => .name function ∈ ts ∧ function ≠ fieldName
  | .argCount got => got ≠ fieldArity

namespace SyntaxError

theorem aboutTokens_of_begin {ts : List Token} {c : Command} {e : SyntaxError}
    (failed : c.begin = .error e) : e.AboutTokens ts := by
  cases c with
  | value o => cases failed
  | call args =>
      match args with
      | [object, name] => cases failed
      | [] | [_] | _ :: _ :: _ :: _ =>
          cases failed
          simp [AboutTokens, fieldArity]

theorem aboutTokens_of_extend {ts : List Token} {start : Nat} {p : Pipeline} {c : Command}
    {e : SyntaxError} (failed : p.extend start c = .error e) : e.AboutTokens ts := by
  cases c with
  | value o =>
      cases failed
      trivial
  | call args =>
      match args with
      | [object] => cases failed
      | [] | _ :: _ :: _ =>
          cases failed
          simp [AboutTokens, fieldArity]

theorem aboutTokens_of_ofCommands {ts : List Token} {start : Nat} {cs : List Command}
    {e : SyntaxError} (failed : Pipeline.ofCommands start cs = .error e) : e.AboutTokens ts := by
  cases cs with
  | nil =>
      cases failed
      trivial
  | cons first later =>
      rw [Pipeline.ofCommands, bind_eq_error_iff] at failed
      rcases failed with atFirst | ⟨p, -, atLater⟩
      · exact aboutTokens_of_begin atFirst
      · obtain ⟨c, -, q, extending⟩ := exists_of_foldlM_eq_error atLater
        exact aboutTokens_of_extend extending

theorem aboutTokens_of_nameError {ts : List Token} {name : String} (member : .name name ∈ ts) :
    (nameError name).AboutTokens ts := by
  unfold nameError
  split
  · simp [AboutTokens, fieldArity]
  · rename_i unknown
    exact ⟨member, unknown⟩

theorem aboutTokens_of_step {ts : List Token} {r : Reading} {t : Placed} {e : SyntaxError}
    (failed : r.step t = .error e) (member : t.token ∈ ts) : e.AboutTokens ts := by
  obtain ⟨f, outer⟩ := r
  obtain ⟨token, place⟩ := t
  cases token with
  | name text =>
      cases current : f.current with
      | none =>
          by_cases known : text = fieldName
          · simp [Reading.step, current, known] at failed
          · simp only [Reading.step, current, if_neg known] at failed
            cases failed
            exact ⟨member, known⟩
      | some c =>
          cases c <;> simp only [Reading.step, current] at failed <;> cases failed
          · trivial
          · exact aboutTokens_of_nameError member
  | closeParen =>
      cases current : f.current with
      | none =>
          simp only [Reading.step, current] at failed
          cases failed
          trivial
      | some c =>
          cases outer with
          | nil =>
              simp only [Reading.step, current] at failed
              cases failed
              trivial
          | cons g rest =>
              simp only [Reading.step, current, bind_eq_error_iff] at failed
              rcases failed with failed | ⟨p, -, impossible⟩
              · exact aboutTokens_of_ofCommands failed
              · cases impossible
  | pipe | openParen | dot | chain names | text value | number value | bool value | nil =>
      -- the other tokens can only be out of place
      cases current : f.current with
      | none =>
          simp only [Reading.step, current] at failed
          cases failed <;> trivial
      | some c =>
          cases c <;> simp only [Reading.step, current] at failed <;> cases failed <;> trivial

theorem aboutTokens_of_ofTokens {offset : Nat} {ts : List Placed} {e : SyntaxError}
    (failed : Pipeline.ofTokens offset ts = .error e) : e.AboutTokens (ts.map Placed.token) := by
  rw [Pipeline.ofTokens, bind_eq_error_iff] at failed
  rcases failed with reading | ⟨⟨f, outer⟩, -, finishing⟩
  · obtain ⟨t, member, r, stepping⟩ := exists_of_foldlM_eq_error reading
    exact aboutTokens_of_step stepping (List.mem_map_of_mem member)
  · unfold Reading.finish at finishing
    cases current : f.current with
    | none =>
        simp only [current] at finishing
        cases finishing
        trivial
    | some c =>
        cases outer with
        | nil =>
            simp only [current] at finishing
            exact aboutTokens_of_ofCommands finishing
        | cons g rest =>
            simp only [current] at finishing
            cases finishing
            trivial

end SyntaxError

/-! ## The parser and the grammar -/

theorem Command.joined_injective {cs ds : List Command} (formed : WellFormed cs)
    (formed' : WellFormed ds) (same : joined cs = joined ds) : cs = ds := by
  obtain ⟨p, rfl⟩ := Pipeline.wellFormed_iff.1 formed
  obtain ⟨q, rfl⟩ := Pipeline.wellFormed_iff.1 formed'
  rw [← Pipeline.tokens_eq_joined, ← Pipeline.tokens_eq_joined] at same
  let ts := p.tokens.map fun t => (⟨t, 0⟩ : Placed)
  have written : ts.map Placed.token = p.tokens := by simp [ts, Function.comp_def]
  have readsP : Pipeline.ofTokens 0 ts = .ok p := Pipeline.ofTokens_eq_ok_iff.2 written
  have readsQ : Pipeline.ofTokens 0 ts = .ok q := Pipeline.ofTokens_eq_ok_iff.2 (written.trans same)
  rw [readsP] at readsQ
  cases readsQ
  rfl

/-- **The tokens of an action make a pipeline exactly if they are written by the grammar**, and
then the pipeline is the one they are written from, which no other is.  All other tokens are
refused: an unknown function is one of their names other than `field`, and a wrong number of
arguments is never that of `field`, which is two. -/
theorem Pipeline.ofTokens_accepts_grammar (offset : Nat) (ts : List Placed) :
    (∀ cs : List Command, (∃ p : Pipeline, ofTokens offset ts = .ok p ∧ p.commands = cs) ↔
        Command.WellFormed cs ∧ ts.map Placed.token = Command.joined cs) ∧
      (∀ cs ds : List Command, Command.WellFormed cs → Command.WellFormed ds →
        Command.joined cs = Command.joined ds → cs = ds) ∧
      ((∃ e, ofTokens offset ts = .error e) ↔
        ∀ cs : List Command, Command.WellFormed cs → ts.map Placed.token ≠ Command.joined cs) ∧
      (∀ function, ofTokens offset ts = .error (.unknownFunction function) →
        .name function ∈ ts.map Placed.token ∧ function ≠ "field") ∧
      ∀ got, ofTokens offset ts = .error (.argCount got) →
        got ≠ 2 ∧ ∀ name source, ((SyntaxError.argCount got).located name source).message =
          "template: " ++ name ++ ": wrong number of args for " ++ "field" ++ ": want " ++ "2" ++
            " got " ++ toString got := by
  refine ⟨fun cs => ⟨?_, ?_⟩, fun _ _ => Command.joined_injective, ⟨?_, ?_⟩, ?_, ?_⟩
  · rintro ⟨p, read, rfl⟩
    exact ⟨p.wellFormed_commands, (ofTokens_eq_ok_iff.1 read).trans p.tokens_eq_joined⟩
  · rintro ⟨formed, written⟩
    obtain ⟨p, rfl⟩ := wellFormed_iff.1 formed
    exact ⟨p, ofTokens_eq_ok_iff.2 (written.trans p.tokens_eq_joined.symm), rfl⟩
  · rintro ⟨e, failed⟩ cs formed written
    obtain ⟨p, rfl⟩ := wellFormed_iff.1 formed
    rw [ofTokens_eq_ok_iff.2 (written.trans p.tokens_eq_joined.symm)] at failed
    cases failed
  · intro unwritten
    cases read : ofTokens offset ts with
    | error e => exact ⟨e, rfl⟩
    | ok p =>
        have written := (ofTokens_eq_ok_iff.1 read).trans p.tokens_eq_joined
        exact absurd written (unwritten p.commands p.wellFormed_commands)
  · intro function failed
    exact SyntaxError.aboutTokens_of_ofTokens failed
  · intro got failed
    exact ⟨SyntaxError.aboutTokens_of_ofTokens failed, fun _ _ => rfl⟩

/-- `. | field (field . "a")` is written by the grammar; `upper .` calls what is no function, and
inside the parentheses of `. | field (field .)` an argument is missing. -/
theorem Pipeline.ofTokens_accepts_grammar_nested :
    let place (t : Token) : Placed := ⟨t, 0⟩
    let nested : List Command :=
      [.value .dot, .call [.group (.field .dot (.literal (.text "a")))]]
    let upper := [Token.name "upper", .dot].map place
    let short := [Token.dot, .pipe, .name "field", .openParen, .name "field", .dot, .closeParen].map place
    (∃ p : Pipeline, ofTokens 0 ((Command.joined nested).map place) = .ok p ∧ p.commands = nested) ∧
      (ofTokens 0 upper = .error (.unknownFunction "upper") ∧
        .name "upper" ∈ upper.map Placed.token ∧ "upper" ≠ "field") ∧
      ofTokens 0 short = .error (.argCount 1) ∧ 1 ≠ 2 := by
  intro place nested upper short
  have formed : Command.WellFormed nested := ⟨.value _, by simpa using .call _⟩
  refine ⟨?_, ⟨rfl, ?_⟩, rfl, ?_⟩
  · exact ((ofTokens_accepts_grammar 0 _).1 nested).2 ⟨formed, by rfl⟩
  · exact (ofTokens_accepts_grammar 0 upper).2.2.2.1 "upper" rfl
  · exact ((ofTokens_accepts_grammar 0 short).2.2.2.2 1 rfl).1

end Responder.Template
