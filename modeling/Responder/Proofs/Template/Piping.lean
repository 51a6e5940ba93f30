/-
# Responder.Proofs.Template.Piping -- a pipe is a nested call

What is piped into a call is its last argument, so a pipeline can be written without
pipes: each call takes what stands before its pipe as a pipeline in parentheses
(`Pipeline.nested`).  The two forms look at their parts in opposite orders.  So they
have the same value or both have none (`Pipeline.eval_nested_eq_ok_iff`), but which part
is at fault may differ, unless every part has a value: then only the calls can fail, and
they are the same calls (`Pipeline.eval_nested`).  Parentheses alone change nothing
(`Pipeline.MoreParens.eval_eq`).
-/
import Responder.Proofs.Except
import Responder.Template.Eval

namespace Responder.Template

set_option autoImplicit false

variable {dot : Json}

/-! ## Nested calls -/

/-- A pipeline as nested calls: what stands before a pipe is the last argument of the call behind it. -/
def Pipeline.nested : Pipeline → Pipeline
  | .value o => .value o
  | .field object name => .field object name
  | .pipe p object => .field object (.group p.nested)

/-- What the two forms of a pipeline evaluate on its own: the first command, and the operand that
each call behind a pipe has for its object. -/
def Pipeline.parts : Pipeline → List Pipeline
  | .value o => [.value o]
  | .field object name => [.field object name]
  | .pipe p object => p.parts ++ [.value object]

/-- A pipeline has a value if and only if the nested calls have it. -/
theorem Pipeline.eval_nested_eq_ok_iff (p : Pipeline) (value : Json) :
    p.nested.eval dot = .ok value ↔ p.eval dot = .ok value := by
  induction p using Pipeline.rec (motive_1 := fun _ => True) generalizing value with
  | value o => rfl
  | field object name => rfl
  | pipe p object ih =>
      rw [nested, eval, eval]
      simp only [bind_eq_ok_iff, Operand.eval, ih]
      constructor
      · rintro ⟨first, found, named, piped, calling⟩
        exact ⟨named, piped, first, found, calling⟩
      · rintro ⟨named, piped, first, found, calling⟩
        exact ⟨first, found, named, piped, calling⟩
  | _ => trivial

/-- Where every part has a value, a pipeline and the nested calls fail alike. -/
theorem Pipeline.eval_nested {p : Pipeline} (each : ∀ part ∈ p.parts, ∃ value, part.eval dot = .ok value) :
    p.nested.eval dot = p.eval dot := by
  induction p using Pipeline.rec (motive_1 := fun _ => True) with
  | value o => rfl
  | field object name => rfl
  | pipe p object ih =>
      have before := ih fun part inside => each part (List.mem_append_left _ inside)
      obtain ⟨first, found⟩ := each (.value object) (List.mem_append_right _ (List.mem_singleton_self _))
      rw [eval] at found
      rw [nested, eval, eval, found, Operand.eval, before]
      cases p.eval dot <;> rfl
  | _ => trivial

/-! ## Parentheses -/

mutual

/-- Whether the second operand is the first with more parentheses, around it or around operands and
pipelines inside it. -/
inductive Operand.MoreParens : Operand → Operand → Prop where
  | same (o : Operand) : Operand.MoreParens o o
  | around {o o' : Operand} (inside : Operand.MoreParens o o') :
      Operand.MoreParens o (.group (.value o'))
  | group {p p' : Pipeline} (inside : Pipeline.MoreParens p p') :
      Operand.MoreParens (.group p) (.group p')

/-- Whether the second pipeline is the first with more parentheses, around it or around operands and
pipelines inside it. -/
inductive Pipeline.MoreParens : Pipeline → Pipeline → Prop where
  | same (p : Pipeline) : Pipeline.MoreParens p p
  | around {p p' : Pipeline} (inside : Pipeline.MoreParens p p') :
      Pipeline.MoreParens p (.value (.group p'))
  | value {o o' : Operand} (inside : Operand.MoreParens o o') :
      Pipeline.MoreParens (.value o) (.value o')
  | field {object object' name name' : Operand} (atObject : Operand.MoreParens object object')
      (atName : Operand.MoreParens name name') :
      Pipeline.MoreParens (.field object name) (.field object' name')
  | pipe {p p' : Pipeline} {object object' : Operand} (before : Pipeline.MoreParens p p')
      (behind : Operand.MoreParens object object') :
      Pipeline.MoreParens (.pipe p object) (.pipe p' object')

end

mutual

theorem Operand.MoreParens.eval_eq : {o o' : Operand} → o.MoreParens o' → o'.eval dot = o.eval dot
  | _, _, .same o => rfl
  | _, _, .around inside => inside.eval_eq
  | _, _, .group inside => inside.eval_eq

/-- Parentheses change neither the value of a pipeline nor its fault. -/
theorem Pipeline.MoreParens.eval_eq : {p p' : Pipeline} → p.MoreParens p' → p'.eval dot = p.eval dot
  | _, _, .same p => rfl
  | _, _, .around inside => inside.eval_eq
  | _, _, .value inside => inside.eval_eq
  | _, _, .field atObject atName => by
      rw [Pipeline.eval, Pipeline.eval, atObject.eval_eq, atName.eval_eq]
  | _, _, .pipe before behind => by
      rw [Pipeline.eval, Pipeline.eval, before.eval_eq, behind.eval_eq]

end

/-! ## Piping -/

/-- **Piping is nesting.**  On every value, a pipeline and the nested calls have the same value or
both have none; where the first command and every operand behind a pipe have values, they also have
the same fault.  And parentheses, around any operand or around a whole pipeline, at any depth, change
neither value nor fault. -/
theorem piping_is_nesting (dot : Json) :
    (∀ p : Pipeline,
      (∀ value, p.eval dot = .ok value ↔ p.nested.eval dot = .ok value) ∧
      ((∀ part ∈ p.parts, ∃ value, part.eval dot = .ok value) →
        ∀ fault, p.eval dot = .error fault ↔ p.nested.eval dot = .error fault)) ∧
    ∀ p q : Pipeline, p.MoreParens q → q.eval dot = p.eval dot := by
  refine ⟨fun p => ⟨fun value => (p.eval_nested_eq_ok_iff value).symm, fun each fault => ?_⟩,
    fun p q more => more.eval_eq⟩
  rw [Pipeline.eval_nested each]

/-- Two pipes behind a text: as nested calls they find the same value, and where the first call finds
a number the second fails on it in both forms, also with parentheses around all of it and inside. -/
theorem piping_is_nesting_twice :
    let dot : Json := .object [("a", .string "k"), ("m", .object [("k", .array [.null])]), ("n", .bool true)]
    let first (name : String) : Pipeline := .pipe (.value (.literal (.text name))) .dot
    let whole (name : String) : Pipeline := .pipe (first name) (.chain ["m"])
    let parens (name : String) : Pipeline :=
      .value (.group (.pipe (.value (.group (first name))) (.group (.value (.chain ["m"])))))
    (whole "a").nested = .field (.chain ["m"]) (.group (.field .dot (.group (.value (.literal (.text "a")))))) ∧
      (whole "a").eval dot = .ok (.array [.null]) ∧ (whole "a").nested.eval dot = .ok (.array [.null]) ∧
      (∀ part ∈ (whole "n").parts, ∃ value, part.eval dot = .ok value) ∧
      (whole "n").eval dot = .error (.nameNotString .bool) ∧
      (whole "n").nested.eval dot = .error (.nameNotString .bool) ∧
      (whole "n").MoreParens (parens "n") ∧ (parens "n").eval dot = .error (.nameNotString .bool) := by
  intro dot first whole parens
  obtain ⟨forms, parenthesised⟩ := piping_is_nesting dot
  have found : (whole "a").eval dot = .ok (.array [.null]) := rfl
  have failed : (whole "n").eval dot = .error (.nameNotString .bool) := rfl
  have each : ∀ part ∈ (whole "n").parts, ∃ value, part.eval dot = .ok value := by
    intro part inside
    simp only [whole, first, Pipeline.parts, List.mem_append, List.mem_singleton, or_assoc] at inside
    rcases inside with rfl | rfl | rfl
    · exact ⟨.string "n", rfl⟩
    · exact ⟨dot, rfl⟩
    · exact ⟨.object [("k", .array [.null])], rfl⟩
  have more : (whole "n").MoreParens (parens "n") :=
    .around (.pipe (.around (.same (first "n"))) (.around (.same (.chain ["m"]))))
  exact ⟨rfl, found, ((forms (whole "a")).1 _).1 found, each, failed, ((forms (whole "n")).2 each _).1 failed,
    more, (parenthesised _ _ more).trans failed⟩

-- two parts are at fault: the pipeline fails on the first of them, the nested calls on the second
example :
    let p : Pipeline := .pipe (.value (.chain ["a", "b"])) (.chain ["c", "d"])
    let dot : Json := .object [("a", .string "x"), ("c", .bool true)]
    p.eval dot = .error (.noField "b" .string) ∧ p.nested.eval dot = .error (.noField "d" .bool) := ⟨rfl, rfl⟩

end Responder.Template
