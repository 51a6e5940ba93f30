/-
# Responder.Proofs.Template.Path -- chains and nested field calls

A chain of names and nested calls of `field` with those names both follow a path from
key to key (`Json.reach?`).  The calls go on from whatever they have found, so they
always have a value (`Pipeline.eval_lookups`).  A chain goes on from null and from
nothing, but is blocked by any other value that has no fields; nothing is reached
behind such a value, so a path is blocked in one place at most (`Blocked.unique`),
and there is where the chain fails.
-/
import Responder.Proofs.Except
import Responder.Event.Basic
import Responder.Template.Eval

namespace Responder

set_option autoImplicit false

/-! ## Paths -/

/-- The value that names lead to from a value, each the key of a member of the object before. -/
def Json.reach? : List String → Json → Option Json
  | [], value => some value
  | name :: names, value => (value.field? name).bind (reach? names)

namespace Template

open Json (reach?)

theorem reach?_append (front back : List String) (value : Json) :
    reach? (front ++ back) value = (reach? front value).bind (reach? back) := by
  induction front generalizing value with
  | nil => rfl
  | cons name front ih =>
      rw [List.cons_append, reach?, reach?, Option.bind_assoc]
      exact congrArg _ (funext ih)

theorem field?_eq_none_of_shape {value : Json} (fieldless : value.shape ≠ .object) (name : String) :
    value.field? name = none := by
  cases value with
  | object members => exact absurd rfl fieldless
  | _ => rfl

theorem getD_reach?_null (names : List String) : (reach? names .null).getD .null = .null := by
  cases names <;> rfl

theorem getD_reach?_singleton (name : String) (value : Json) :
    (reach? [name] value).getD .null = (value.field? name).getD .null := by
  rw [reach?]
  cases value.field? name <;> rfl

/-- Where null stands for what is not reached, a path goes on from what its first names lead to. -/
theorem getD_reach?_append (front back : List String) (value : Json) :
    (reach? (front ++ back) value).getD .null = (reach? back ((reach? front value).getD .null)).getD .null := by
  rw [reach?_append]
  cases reach? front value with
  | none => exact (getD_reach?_null back).symm
  | some next => rfl

theorem getD_reach?_cons (name : String) (names : List String) (value : Json) :
    (reach? (name :: names) value).getD .null = (reach? names ((value.field? name).getD .null)).getD .null := by
  have step := getD_reach?_append [name] names value
  rwa [getD_reach?_singleton] at step

/-! ## Nested field calls -/

/-- Nested calls of `field`, the innermost on the record, each with the next name. -/
def Pipeline.lookups (first : String) (rest : List String) : Pipeline :=
  rest.foldl (fun p name => .field (.group p) (.literal (.text name))) (.field .dot (.literal (.text first)))

variable {dot : Json}

theorem Pipeline.eval_foldl_field {p : Pipeline} (front rest : List String)
    (found : p.eval dot = .ok ((reach? front dot).getD .null)) :
    (rest.foldl (fun p name => .field (.group p) (.literal (.text name))) p).eval dot =
      .ok ((reach? (front ++ rest) dot).getD .null) := by
  induction rest generalizing p front with
  | nil => rw [List.foldl_nil, List.append_nil, found]
  | cons name rest ih =>
      have next : (Pipeline.field (.group p) (.literal (.text name))).eval dot =
          .ok ((reach? (front ++ [name]) dot).getD .null) := by
        rw [Pipeline.eval, Operand.eval, Operand.eval, found, getD_reach?_append, getD_reach?_singleton]
        rfl
      rw [List.foldl_cons, ih _ next, List.append_assoc, List.singleton_append]

/-- **Nested field calls always have a value**: what their names lead to, or null. -/
theorem Pipeline.eval_lookups (first : String) (rest : List String) (dot : Json) :
    (lookups first rest).eval dot = .ok ((reach? (first :: rest) dot).getD .null) :=
  Pipeline.eval_foldl_field [first] rest (congrArg Except.ok (getD_reach?_singleton first dot).symm)

/-! ## Chains -/

/-- A path is blocked after its first `taken` names: they lead to a value that is neither null nor
an object, and there are more names. -/
structure Blocked (dot : Json) (names : List String) (taken : Nat) (reached : Json) : Prop where
  more : taken < names.length
  led : reach? (names.take taken) dot = some reached
  present : reached.shape ≠ .null
  fieldless : reached.shape ≠ .object

theorem blocked_cons_iff {name : String} {names : List String} {taken : Nat} {reached : Json} :
    Blocked dot (name :: names) taken reached ↔
      (taken = 0 ∧ reached = dot ∧ dot.shape ≠ .null ∧ dot.shape ≠ .object) ∨
      ∃ i next, taken = i + 1 ∧ dot.field? name = some next ∧ Blocked next names i reached := by
  cases taken with
  | zero =>
      constructor
      · rintro ⟨-, led, present, fieldless⟩
        cases led
        exact .inl ⟨rfl, rfl, present, fieldless⟩
      · rintro (⟨-, rfl, present, fieldless⟩ | ⟨i, next, impossible, -⟩)
        · exact ⟨Nat.succ_pos _, rfl, present, fieldless⟩
        · cases impossible
  | succ i =>
      constructor
      · rintro ⟨more, led, present, fieldless⟩
        obtain ⟨next, found, led⟩ := Option.bind_eq_some_iff.1 led
        exact .inr ⟨i, next, rfl, found, Nat.lt_of_succ_lt_succ more, led, present, fieldless⟩
      · rintro (⟨impossible, -⟩ | ⟨j, next, same, found, more, led, present, fieldless⟩)
        · cases impossible
        · cases same
          exact ⟨Nat.succ_lt_succ more, Option.bind_eq_some_iff.2 ⟨next, found, led⟩, present, fieldless⟩

theorem not_blocked_null (names : List String) (taken : Nat) (reached : Json) :
    ¬ Blocked .null names taken reached := by
  intro blocked
  cases names with
  | nil => cases blocked.more
  | cons name names =>
      rcases blocked_cons_iff.1 blocked with ⟨-, -, present, -⟩ | ⟨i, next, -, found, -⟩
      · exact present rfl
      · cases found

/-- Nothing blocks a path behind a value that does. -/
theorem Blocked.unique {names : List String} {i j : Nat} {first second : Json}
    (atFirst : Blocked dot names i first) (atSecond : Blocked dot names j second) : i = j := by
  induction names generalizing dot i j with
  | nil => cases atFirst.more
  | cons name names ih =>
      rcases blocked_cons_iff.1 atFirst with ⟨rfl, -, -, fieldless⟩ | ⟨i, next, rfl, found, inside⟩
      · rcases blocked_cons_iff.1 atSecond with ⟨rfl, -⟩ | ⟨j, next, -, found, -⟩
        · rfl
        · rw [field?_eq_none_of_shape fieldless] at found
          cases found
      · rcases blocked_cons_iff.1 atSecond with ⟨-, -, -, fieldless⟩ | ⟨j, other, rfl, same, also⟩
        · rw [field?_eq_none_of_shape fieldless] at found
          cases found
        · cases found.symm.trans same
          rw [ih inside also]

theorem blocked_getD_null_iff {found : Option Json} {names : List String} {taken : Nat} {reached : Json} :
    Blocked (found.getD .null) names taken reached ↔
      ∃ next, found = some next ∧ Blocked next names taken reached := by
  cases found with
  | none => simp [not_blocked_null]
  | some next => simp

/-- **A chain fails where its path is blocked**, on the first name that it does not take. -/
theorem chainValue_eq_error_iff {names : List String} {fault : RenderFault} :
    chainValue names dot = .error fault ↔ ∃ taken reached name, Blocked dot names taken reached ∧
      names[taken]? = some name ∧ fault = .noField name reached.shape := by
  induction names generalizing dot with
  | nil =>
      constructor
      · rintro ⟨⟩
      · rintro ⟨taken, reached, name, blocked, -⟩
        cases blocked.more
  | cons name names ih =>
      cases dot with
      | object members =>
          rw [chainValue, ih]
          constructor
          · rintro ⟨taken, reached, last, blocked, named, faulty⟩
            obtain ⟨next, found, inside⟩ := blocked_getD_null_iff.1 blocked
            exact ⟨taken + 1, reached, last, blocked_cons_iff.2 (.inr ⟨taken, next, rfl, found, inside⟩), named,
              faulty⟩
          · rintro ⟨taken, reached, last, blocked, named, faulty⟩
            rcases blocked_cons_iff.1 blocked with ⟨-, -, -, fieldless⟩ | ⟨i, next, rfl, found, inside⟩
            · exact absurd rfl fieldless
            · exact ⟨i, reached, last, blocked_getD_null_iff.2 ⟨next, found, inside⟩, named, faulty⟩
      | null =>
          rw [chainValue, ih]
          simp only [not_blocked_null, false_and, exists_false]
      | bool b | number n | string s | array items =>
          simp only [chainValue, blocked_cons_iff]
          constructor
          · rintro ⟨⟩
            exact ⟨0, _, name, .inl ⟨rfl, rfl, Json.Shape.noConfusion, Json.Shape.noConfusion⟩, rfl, rfl⟩
          · rintro ⟨taken, reached, last, ⟨rfl, rfl, -⟩ | ⟨i, next, -, found, -⟩, named, rfl⟩
            · cases named
              rfl
            · cases found

/-- What a chain has for its value is what its names lead to, or null. -/
theorem eq_of_chainValue {names : List String} {value : Json} (led : chainValue names dot = .ok value) :
    value = (reach? names dot).getD .null := by
  induction names generalizing dot with
  | nil =>
      cases led
      rfl
  | cons name names ih =>
      cases dot with
      | object members =>
          rw [ih led, getD_reach?_cons]
          rfl
      | null => rw [ih led, getD_reach?_null, getD_reach?_null]
      | bool b | number n | string s | array items => cases led

theorem chainValue_eq_ok_iff {names : List String} {value : Json} :
    chainValue names dot = .ok value ↔
      (∀ taken reached, ¬ Blocked dot names taken reached) ∧ (reach? names dot).getD .null = value := by
  constructor
  · intro led
    refine ⟨fun taken reached blocked => ?_, (eq_of_chainValue led).symm⟩
    have failed := chainValue_eq_error_iff.2
      ⟨taken, reached, _, blocked, List.getElem?_eq_getElem blocked.more, rfl⟩
    cases led.symm.trans failed
  · rintro ⟨free, rfl⟩
    cases led : chainValue names dot with
    | ok value => rw [eq_of_chainValue led]
    | error fault =>
        obtain ⟨taken, reached, -, blocked, -⟩ := chainValue_eq_error_iff.1 led
        exact absurd blocked (free taken reached)

/-! ## Agreement -/

/-- **A chain and nested field calls agree wherever both have a value.**  On every event, for every
list of one name or more:

* the nested calls have a value, what the names lead to or null;
* the chain has that value unless its path is blocked, which only a proper and non-empty part of the
  names can lead to;
* where its path is blocked first, the chain fails, and the message has the next name and the shape
  of what is reached there. -/
theorem chain_agrees_with_lookups (event : Event) (first : String) (rest : List String) :
    let dot := event.json
    let names := first :: rest
    let chain : Pipeline := .value (.chain names)
    (Pipeline.lookups first rest).eval dot = .ok ((reach? names dot).getD .null) ∧
    (∀ value, chain.eval dot = .ok value ↔
      (∀ taken reached, ¬ Blocked dot names taken reached) ∧
        (Pipeline.lookups first rest).eval dot = .ok value) ∧
    ∀ fault, chain.eval dot = .error fault ↔ ∃ taken reached name,
      0 < taken ∧ Blocked dot names taken reached ∧ (∀ i < taken, ∀ value, ¬ Blocked dot names i value) ∧
        names[taken]? = some name ∧ fault = .noField name reached.shape ∧
        fault.message = "can't evaluate field " ++ name ++ " in type " ++ reached.shape.name := by
  intro dot names chain
  have called := Pipeline.eval_lookups first rest dot
  refine ⟨called, fun value => ?_, fun fault => ?_⟩
  · rw [called]
    exact chainValue_eq_ok_iff.trans (and_congr_right fun _ => (Except.ok.injEq _ _).symm.to_iff)
  · refine chainValue_eq_error_iff.trans ⟨?_, ?_⟩
    · rintro ⟨taken, reached, name, blocked, named, rfl⟩
      have least : ∀ i < taken, ∀ value, ¬ Blocked dot names i value :=
        fun i before value also => Nat.ne_of_lt before (also.unique blocked)
      have nonempty : 0 < taken := by
        rcases blocked_cons_iff.1 blocked with ⟨-, -, -, fieldless⟩ | ⟨i, -, rfl, -⟩
        · exact absurd rfl fieldless
        · exact Nat.succ_pos i
      exact ⟨taken, reached, name, nonempty, blocked, least, named, rfl, rfl⟩
    · rintro ⟨taken, reached, name, -, blocked, -, named, faulty, -⟩
      exact ⟨taken, reached, name, blocked, named, faulty⟩

-- the chain is blocked by an array behind two names, and the calls find nothing there
example :
    let event : Event := ⟨[("a", .object [("b", .array [.null])])]⟩
    (Pipeline.value (.chain ["a", "b", "c", "d"])).eval event.json = .error (.noField "c" .array) ∧
      (Pipeline.lookups "a" ["b", "c", "d"]).eval event.json = .ok .null := ⟨rfl, rfl⟩

end Template

end Responder
