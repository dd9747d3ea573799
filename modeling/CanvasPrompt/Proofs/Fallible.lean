import Mathlib.Data.List.Forall2

/-!
# Computations that may fail

A computation in `Except` succeeds if each of its steps does, and one that goes through a list if it
does for each entry (`mapM_eq_ok`); the first failure is the failure of the whole (`mapM_eq_error`).
`Computes f P g` says when `f` succeeds and what it gives then.
-/

namespace CanvasPrompt.Fallible

variable {α β ε : Type}

/-- Two steps succeed if the first one does and the second one does with its result. -/
theorem bind_eq_ok {x : Except ε α} {f : α → Except ε β} {b : β} :
    x >>= f = .ok b ↔ ∃ a, x = .ok a ∧ f a = .ok b := by
  constructor
  · intro h
    cases x with
    | error e => cases h
    | ok a => exact ⟨a, rfl, h⟩
  · rintro ⟨a, rfl, h⟩
    exact h

theorem map_eq_ok {x : Except ε α} {f : α → β} {b : β} :
    x.map f = .ok b ↔ ∃ a, x = .ok a ∧ f a = b := by
  cases x with
  | error e => exact iff_of_false nofun nofun
  | ok a =>
    constructor
    · intro h
      exact ⟨a, rfl, Except.ok.inj h⟩
    · rintro ⟨_, ⟨⟩, rfl⟩
      rfl

theorem pure_eq_ok {a b : α} : (pure a : Except ε α) = .ok b ↔ b = a := by
  constructor
  · intro h
    cases h
    rfl
  · rintro rfl
    rfl

theorem exists_eq_ok_of_isOk {x : Except ε α} (h : x.isOk = true) : ∃ a, x = .ok a := by
  cases x with
  | error e => cases h
  | ok a => exact ⟨a, rfl⟩

/-- Two steps fail if the first one does, or the second one with its result. -/
theorem bind_eq_error {x : Except ε α} {f : α → Except ε β} {e : ε} :
    x >>= f = .error e ↔ x = .error e ∨ ∃ a, x = .ok a ∧ f a = .error e := by
  constructor
  · intro h
    cases x with
    | error e' =>
      cases h
      exact .inl rfl
    | ok a => exact .inr ⟨a, rfl, h⟩
  · rintro (rfl | ⟨a, rfl, h⟩)
    · rfl
    · exact h

/-- A list is gone through if every entry succeeds; the results are in its order. -/
theorem mapM_eq_ok {f : α → Except ε β} {xs : List α} {ys : List β} :
    xs.mapM f = .ok ys ↔ List.Forall₂ (fun x y => f x = .ok y) xs ys := by
  induction xs generalizing ys with
  | nil => rw [List.mapM_nil, pure_eq_ok, List.forall₂_nil_left_iff]
  | cons x rest ih =>
    simp only [List.mapM_cons, bind_eq_ok, pure_eq_ok, ih, List.forall₂_cons_left_iff,
      exists_and_left]

/-- The entries before the first failure succeed, and nothing is computed after it. -/
theorem mapM_eq_error {f : α → Except ε β} {xs : List α} {e : ε} :
    xs.mapM f = .error e ↔
      ∃ before x later, xs = before ++ x :: later ∧ (∀ x' ∈ before, ∃ y, f x' = .ok y) ∧
        f x = .error e := by
  induction xs with
  | nil =>
    refine iff_of_false nofun ?_
    rintro ⟨before, x, later, hsplit, -⟩
    exact List.append_ne_nil_of_right_ne_nil before (List.cons_ne_nil x later) hsplit.symm
  | cons x rest ih =>
    rw [List.mapM_cons, bind_eq_error]
    constructor
    -- The head fails, or else the first failure is in the rest.
    · rintro (hx | ⟨y, hx, hrest⟩)
      · exact ⟨[], x, rest, rfl, List.forall_mem_nil _, hx⟩
      · obtain hrest | ⟨ys, -, ⟨⟩⟩ := bind_eq_error.mp hrest
        obtain ⟨before, x', later, rfl, hbefore, hx'⟩ := ih.mp hrest
        exact ⟨x :: before, x', later, rfl, List.forall_mem_cons.mpr ⟨⟨y, hx⟩, hbefore⟩, hx'⟩
    · rintro ⟨before, x', later, hsplit, hbefore, hx'⟩
      cases before with
      | nil =>
        cases hsplit
        exact .inl hx'
      | cons =>
        cases hsplit
        obtain ⟨⟨y, hy⟩, hbefore⟩ := List.forall_mem_cons.mp hbefore
        exact .inr ⟨y, hy, bind_eq_error.mpr (.inl (ih.mpr ⟨_, x', later, rfl, hbefore, hx'⟩))⟩

/-- The computation succeeds on the arguments with `P`, and gives the values of `g` there. -/
def Computes (f : α → Except ε β) (P : α → Prop) (g : α → β) : Prop :=
  ∀ x y, f x = .ok y ↔ P x ∧ y = g x

/-- What is computed entry by entry is computed for a list, if every entry permits it. -/
theorem Computes.mapM {f : α → Except ε β} {P : α → Prop} {g : α → β} (h : Computes f P g) :
    Computes (·.mapM f) (∀ x ∈ ·, P x) (List.map g) := by
  intro xs ys
  -- The results are the values of `g` one by one, so the two lists are equal.
  have hvalues : List.Forall₂ (fun x y => y = g x) xs ys ↔ ys = xs.map g := by
    rw [eq_comm, ← List.forall₂_eq_eq_eq, List.forall₂_map_left_iff]
    simp only [eq_comm]
  rw [mapM_eq_ok, ← hvalues, ← List.forall₂_and_left]
  simp only [h _ _]

end CanvasPrompt.Fallible
