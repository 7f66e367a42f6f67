import Mathlib.Data.Finmap

/-!
# Go maps

`GoMap κ α` is Go's `map[κ]α`: a finite map, compared by its contents. Reading a missing key gives
the zero value (`GoMap.get`), `len` counts the keys, `delete` of a missing key does nothing.
-/

set_option autoImplicit false

/-- `map[κ]α`. -/
abbrev GoMap (κ α : Type*) := Finmap fun _ : κ => α

namespace GoMap

variable {κ α : Type*} [DecidableEq κ]

/-- `m[k]`: the value at `k`, the zero value if there is none. -/
def get [Inhabited α] (m : GoMap κ α) (k : κ) : α := (m.lookup k).getD default

/-- `len(m)`. -/
def len (m : GoMap κ α) : Nat := m.keys.card

theorem len_eq_zero {m : GoMap κ α} : m.len = 0 ↔ ∀ k, m.lookup k = none := by
  simp only [len, Finset.card_eq_zero, Finset.eq_empty_iff_forall_notMem, Finmap.mem_keys,
    Finmap.lookup_eq_none]

theorem eq_empty_iff {m : GoMap κ α} : m = ∅ ↔ ∀ k, k ∉ m := by
  refine ⟨fun h k => h ▸ Finmap.notMem_empty, fun h => Finmap.ext_lookup fun k => ?_⟩
  rw [Finmap.lookup_eq_none.2 (h k), Finmap.lookup_empty]

theorem len_eq_zero_iff {m : GoMap κ α} : m.len = 0 ↔ m = ∅ := by
  rw [len_eq_zero, eq_empty_iff]
  exact forall_congr' fun k => Finmap.lookup_eq_none

theorem ne_empty_iff {m : GoMap κ α} : m ≠ ∅ ↔ ∃ k, k ∈ m := by
  rw [ne_eq, eq_empty_iff]
  exact not_forall_not

theorem lookup_insert_eq (m : GoMap κ α) (k k' : κ) (a : α) :
    (m.insert k a).lookup k' = if k' = k then some a else m.lookup k' := by
  split
  · subst k'; exact Finmap.lookup_insert m
  · rename_i h; exact Finmap.lookup_insert_of_ne m h

theorem lookup_erase_eq (m : GoMap κ α) (k k' : κ) :
    (m.erase k).lookup k' = if k' = k then none else m.lookup k' := by
  split
  · subst k'; exact Finmap.lookup_erase _ m
  · rename_i h; exact Finmap.lookup_erase_ne h

/-- Overwriting a key and deleting it is deleting it. -/
theorem erase_insert_self (m : GoMap κ α) (k : κ) (a : α) : (m.insert k a).erase k = m.erase k :=
  Finmap.ext_lookup fun k' => by
    rw [lookup_erase_eq, lookup_erase_eq, lookup_insert_eq]
    split <;> rfl

omit [DecidableEq κ] in
@[simp] theorem default_eq : (default : GoMap κ α) = ∅ := rfl

theorem get_eq_true {m : GoMap κ Bool} {k : κ} : GoMap.get m k = true ↔ m.lookup k = some true := by
  unfold get
  cases hk : m.lookup k with
  | none => exact iff_of_false Bool.false_ne_true (by simp)
  | some b => simp

theorem get_of_lookup [Inhabited α] {m : GoMap κ α} {k : κ} {a : α} (h : m.lookup k = some a) :
    GoMap.get m k = a := by simp [get, h]

theorem get_of_lookup_none [Inhabited α] {m : GoMap κ α} {k : κ} (h : m.lookup k = none) :
    GoMap.get m k = default := by simp [get, h]

end GoMap
