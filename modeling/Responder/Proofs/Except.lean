/-
# Responder.Proofs.Except -- taking apart computations that may fail

What a result says about the steps that led to it: a value comes from values all
the way, an error from one of the steps.
-/
import Mathlib.Data.List.Forall2

namespace Responder

set_option autoImplicit false

universe u v

variable {ε : Type u} {α β : Type v}

theorem bind_eq_ok_iff {x : Except ε α} {f : α → Except ε β} {b : β} :
    x >>= f = .ok b ↔ ∃ a, x = .ok a ∧ f a = .ok b := by
  cases x with
  | error e =>
      constructor
      · intro h
        cases h
      · rintro ⟨a, h, -⟩
        cases h
  | ok a =>
      constructor
      · intro h
        exact ⟨a, rfl, h⟩
      · rintro ⟨a', h, rest⟩
        cases h
        exact rest

theorem bind_eq_error_iff {x : Except ε α} {f : α → Except ε β} {e : ε} :
    x >>= f = .error e ↔ x = .error e ∨ ∃ a, x = .ok a ∧ f a = .error e := by
  cases x with
  | error d =>
      constructor
      · intro h
        cases h
        exact .inl rfl
      · rintro (h | ⟨a, h, -⟩) <;> cases h
        rfl
  | ok a =>
      constructor
      · intro h
        exact .inr ⟨a, rfl, h⟩
      · rintro (h | ⟨a', h, rest⟩) <;> cases h
        exact rest

theorem map_eq_ok_iff {x : Except ε α} {f : α → β} {b : β} :
    x.map f = .ok b ↔ ∃ a, x = .ok a ∧ f a = b := by
  cases x with
  | error e =>
      constructor
      · intro h
        cases h
      · rintro ⟨a, h, -⟩
        cases h
  | ok a => simp [Except.map]

/-- Results are the same once their values are mapped: they fail alike, or both have a value. -/
theorem map_eq_map_iff {γ : Type v} {x : Except ε α} {y : Except ε β} {f : α → γ} {g : β → γ} :
    x.map f = y.map g ↔
      (∃ e, x = .error e ∧ y = .error e) ∨ ∃ a b, x = .ok a ∧ y = .ok b ∧ f a = g b := by
  cases x <;> cases y <;> simp [Except.map, eq_comm]

/-- What holds at the start of a fold and is kept at every item holds at its end. -/
theorem invariant_of_foldlM_eq_ok {P : β → Prop} {f : β → α → Except ε β} {start last : β} {xs : List α}
    (keeps : ∀ x ∈ xs, ∀ b b', P b → f b x = .ok b' → P b') (holds : P start)
    (folded : xs.foldlM f start = .ok last) : P last := by
  induction xs generalizing start with
  | nil =>
      cases folded
      exact holds
  | cons x rest ih =>
      rw [List.foldlM_cons, bind_eq_ok_iff] at folded
      obtain ⟨middle, here, later⟩ := folded
      have still := keeps x List.mem_cons_self start middle holds here
      exact ih (fun y member => keeps y (List.mem_cons_of_mem x member)) still later

/-- A fold that fails does so at one of the items, where what it keeps holds still. -/
theorem exists_of_foldlM_eq_error_of_invariant {P : β → Prop} {f : β → α → Except ε β} {start : β}
    {xs : List α} {e : ε} (keeps : ∀ x ∈ xs, ∀ b b', P b → f b x = .ok b' → P b') (holds : P start)
    (failed : xs.foldlM f start = .error e) : ∃ x ∈ xs, ∃ b, P b ∧ f b x = .error e := by
  induction xs generalizing start with
  | nil => cases failed
  | cons x rest ih =>
      rw [List.foldlM_cons, bind_eq_error_iff] at failed
      rcases failed with here | ⟨middle, here, later⟩
      · exact ⟨x, List.mem_cons_self, start, holds, here⟩
      · have still := keeps x List.mem_cons_self start middle holds here
        obtain ⟨y, member, b, kept, there⟩ :=
          ih (fun y member => keeps y (List.mem_cons_of_mem x member)) still later
        exact ⟨y, List.mem_cons_of_mem x member, b, kept, there⟩

/-- A fold that fails does so at one of the items. -/
theorem exists_of_foldlM_eq_error {f : β → α → Except ε β} {start : β} {xs : List α} {e : ε}
    (failed : xs.foldlM f start = .error e) : ∃ x ∈ xs, ∃ b, f b x = .error e := by
  have keeps : ∀ x ∈ xs, ∀ b b', True → f b x = .ok b' → True := fun _ _ _ _ _ _ => trivial
  obtain ⟨x, member, b, -, there⟩ := exists_of_foldlM_eq_error_of_invariant keeps trivial failed
  exact ⟨x, member, b, there⟩

/-- A list of results is there if and only if each item has its result. -/
theorem mapM_eq_ok_iff {f : α → Except ε β} {xs : List α} {ys : List β} :
    xs.mapM f = .ok ys ↔ List.Forall₂ (fun x y => f x = .ok y) xs ys := by
  induction xs generalizing ys with
  | nil =>
      rw [List.mapM_nil, List.forall₂_nil_left_iff]
      constructor
      · intro h
        cases h
        rfl
      · rintro rfl
        rfl
  | cons x rest ih =>
      rw [List.mapM_cons, bind_eq_ok_iff, List.forall₂_cons_left_iff]
      constructor
      · rintro ⟨y, here, after⟩
        obtain ⟨later, there, done⟩ := bind_eq_ok_iff.1 after
        cases done
        exact ⟨y, later, here, ih.1 there, rfl⟩
      · rintro ⟨y, later, here, there, rfl⟩
        exact ⟨y, here, bind_eq_ok_iff.2 ⟨later, ih.2 there, rfl⟩⟩

/-- A list of results depends only on the results of its items. -/
theorem mapM_congr {f g : α → Except ε β} {xs : List α} (same : ∀ x ∈ xs, f x = g x) :
    xs.mapM f = xs.mapM g := by
  induction xs with
  | nil => rfl
  | cons x rest ih =>
      rw [List.mapM_cons, List.mapM_cons, same x List.mem_cons_self,
        ih fun later member => same later (List.mem_cons_of_mem _ member)]

/-- Each result in a list comes from an item. -/
theorem exists_mem_of_mapM_eq_ok {f : α → Except ε β} {xs : List α} {ys : List β}
    (made : xs.mapM f = .ok ys) {y : β} (member : y ∈ ys) : ∃ x ∈ xs, f x = .ok y := by
  have each := mapM_eq_ok_iff.1 made
  induction each with
  | nil => cases member
  | cons here later ih =>
      rcases List.mem_cons.1 member with rfl | behind
      · exact ⟨_, List.mem_cons_self, here⟩
      · obtain ⟨x, inside, there⟩ := ih (mapM_eq_ok_iff.2 later) behind
        exact ⟨x, List.mem_cons_of_mem _ inside, there⟩

/-- A list of results fails as its first item without a result does. -/
theorem mapM_eq_error_iff {f : α → Except ε β} {xs : List α} {e : ε} :
    xs.mapM f = .error e ↔
      ∃ front x back, xs = front ++ x :: back ∧ (∀ y ∈ front, ∃ b, f y = .ok b) ∧ f x = .error e := by
  induction xs with
  | nil =>
      constructor
      · intro h
        cases h
      · rintro ⟨front, x, back, split, -⟩
        exact absurd split (by simp)
  | cons x rest ih =>
      rw [List.mapM_cons, bind_eq_error_iff]
      constructor
      · rintro (here | ⟨b, here, after⟩)
        · exact ⟨[], x, rest, rfl, by simp, here⟩
        · rcases bind_eq_error_iff.1 after with there | ⟨later, -, done⟩
          · obtain ⟨front, y, back, rfl, good, bad⟩ := ih.1 there
            refine ⟨x :: front, y, back, rfl, ?_, bad⟩
            intro z member
            rcases List.mem_cons.1 member with rfl | member
            · exact ⟨b, here⟩
            · exact good z member
          · cases done
      · rintro ⟨front, y, back, split, good, bad⟩
        cases front with
        | nil =>
            obtain ⟨rfl, -⟩ := List.cons.inj split
            exact .inl bad
        | cons z front =>
            obtain ⟨rfl, rfl⟩ := List.cons.inj split
            obtain ⟨b, here⟩ := good x (by simp)
            have there : (front ++ y :: back).mapM f = .error e :=
              ih.2 ⟨front, y, back, rfl, fun z member => good z (List.mem_cons_of_mem _ member), bad⟩
            exact .inr ⟨b, here, bind_eq_error_iff.2 (.inl there)⟩

end Responder
