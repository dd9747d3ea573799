import Mathlib.Data.List.Basic

/-!
# Pairs in a row

Requests hold two parts for each image, one behind the other, and a last part behind all of them.
This module says at which index each of them stands: for the entries `xs`, the two parts of the
entry with index `n` have the indices `2 * n` and `2 * n + 1`, and the last part has the index
`2 * xs.length`.
-/

namespace CanvasPrompt.Alternation

variable {α β : Type} {f g : α → β} {xs : List α}

/-- There are two parts for each entry. -/
@[simp]
theorem length_flatMap_pair : (xs.flatMap fun x => [f x, g x]).length = 2 * xs.length := by
  simp [Nat.mul_comm]

/-- The parts of an entry stand at its places among the pairs. -/
theorem getElem?_flatMap_pair {n : Nat} {x : α} (h : xs[n]? = some x) :
    (xs.flatMap fun x => [f x, g x])[2 * n]? = some (f x) ∧
      (xs.flatMap fun x => [f x, g x])[2 * n + 1]? = some (g x) := by
  induction xs generalizing n with
  | nil => simp at h
  | cons y rest ih =>
    rw [List.flatMap_cons]
    cases n with
    | zero =>
      obtain rfl : y = x := Option.some.inj h
      exact ⟨rfl, rfl⟩
    | succ n => exact ih h

variable {last : β}

/-- The last part does not move the pairs. -/
theorem getElem?_pairs_append {n : Nat} {x : α} (h : xs[n]? = some x) :
    (xs.flatMap (fun x => [f x, g x]) ++ [last])[2 * n]? = some (f x) ∧
      (xs.flatMap (fun x => [f x, g x]) ++ [last])[2 * n + 1]? = some (g x) := by
  obtain ⟨hlt, -⟩ := List.getElem?_eq_some_iff.mp h
  have hroom : 2 * n + 1 < (xs.flatMap fun x => [f x, g x]).length := by
    rw [length_flatMap_pair]
    omega
  rw [List.getElem?_append_left (by omega), List.getElem?_append_left hroom]
  exact getElem?_flatMap_pair h

/-- The last part stands behind the pairs. -/
theorem getElem?_pairs_append_last :
    (xs.flatMap (fun x => [f x, g x]) ++ [last])[2 * xs.length]? = some last := by
  rw [← length_flatMap_pair (f := f) (g := g), List.getElem?_concat_length]

end CanvasPrompt.Alternation
