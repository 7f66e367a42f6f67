import Mathlib.Data.Finmap

/-!
# Maps with a capacity

`BoundedMap κ α cap` is a finite map of at most `cap` keys, the way a BPF hash map is: an update
overwrites the value of a key that is there, inserts a key that is not there while there is room,
and fails otherwise; a delete of a missing key does nothing.

`lookup_set`, `lookup_delete` say what the operations do to one key; `room_of_subset` gives room to
any key of a set that holds all keys of the map and is within the capacity.
-/

set_option autoImplicit false

/-- A finite map of at most `cap` keys. -/
structure BoundedMap (κ α : Type*) [DecidableEq κ] (cap : Nat) where
  entries : Finmap fun _ : κ => α
  card_le : entries.keys.card ≤ cap

namespace BoundedMap

variable {κ α : Type*} [DecidableEq κ] {cap : Nat}

instance : EmptyCollection (BoundedMap κ α cap) := ⟨⟨∅, by simp⟩⟩

def lookup (m : BoundedMap κ α cap) (k : κ) : Option α := m.entries.lookup k

instance : Membership κ (BoundedMap κ α cap) := ⟨fun m k => (m.lookup k).isSome⟩

instance (k : κ) (m : BoundedMap κ α cap) : Decidable (k ∈ m) :=
  inferInstanceAs (Decidable (_ = true))

/-- An update of `k` succeeds: `k` is there or can be inserted. -/
def Room (m : BoundedMap κ α cap) (k : κ) : Prop := k ∈ m ∨ m.entries.keys.card < cap

instance (m : BoundedMap κ α cap) (k : κ) : Decidable (m.Room k) :=
  inferInstanceAs (Decidable (_ ∨ _))

theorem keys_insert (e : Finmap fun _ : κ => α) (k : κ) (a : α) :
    (e.insert k a).keys = insert k e.keys := by
  ext k'
  rw [Finmap.mem_keys, Finmap.mem_insert, Finset.mem_insert, Finmap.mem_keys]

/-- The update of `k`, `none` if it fails. -/
def update (m : BoundedMap κ α cap) (k : κ) (a : α) : Option (BoundedMap κ α cap) :=
  if h : m.Room k then
    some ⟨m.entries.insert k a, by
      rw [keys_insert]
      rcases h with hk | hlt
      · have hk' : k ∈ m.entries.keys := Finmap.mem_keys.2 (Finmap.lookup_isSome.1 hk)
        rw [Finset.insert_eq_of_mem hk']
        exact m.card_le
      · exact (Finset.card_insert_le k _).trans hlt⟩
  else none

/-- The update of `k` whose failure is ignored. -/
def set (m : BoundedMap κ α cap) (k : κ) (a : α) : BoundedMap κ α cap := (m.update k a).getD m

def delete (m : BoundedMap κ α cap) (k : κ) : BoundedMap κ α cap :=
  ⟨m.entries.erase k, by
    rw [Finmap.keys_erase]
    exact (Finset.card_erase_le).trans m.card_le⟩

variable {m : BoundedMap κ α cap} {k : κ}

theorem mem_iff : k ∈ m ↔ ∃ a, m.lookup k = some a := Option.isSome_iff_exists

theorem not_mem_iff : k ∉ m ↔ m.lookup k = none := by
  rw [mem_iff]
  cases m.lookup k <;> simp

@[simp] theorem lookup_empty (k : κ) : (∅ : BoundedMap κ α cap).lookup k = none :=
  Finmap.lookup_empty k

theorem lookup_set (m : BoundedMap κ α cap) (k k' : κ) (a : α) :
    (m.set k a).lookup k' = if k' = k ∧ m.Room k then some a else m.lookup k' := by
  unfold set update
  by_cases hr : m.Room k
  · simp only [hr, dite_true, Option.getD_some, and_true]
    split
    · subst k'; exact Finmap.lookup_insert _
    · rename_i hk; exact Finmap.lookup_insert_of_ne _ hk
  · simp [hr]

theorem lookup_delete (m : BoundedMap κ α cap) (k k' : κ) :
    (m.delete k).lookup k' = if k' = k then none else m.lookup k' := by
  split
  · subst k'; exact Finmap.lookup_erase _ _
  · rename_i hk; exact Finmap.lookup_erase_ne hk

/-- A set of keys within the capacity that holds `k` and all keys of the map leaves room for `k`. -/
theorem room_of_subset {ks : Finset κ} (hm : ∀ k' ∈ m, k' ∈ ks) (hk : k ∈ ks)
    (hcard : ks.card ≤ cap) : m.Room k := by
  by_cases hkm : k ∈ m
  · exact .inl hkm
  · refine .inr (lt_of_lt_of_le (Finset.card_lt_card ?_) hcard)
    refine Finset.ssubset_iff_subset_ne.2 ⟨fun k' hk' => hm k' ?_, fun heq => hkm ?_⟩
    · exact Finmap.lookup_isSome.2 (Finmap.mem_keys.1 hk')
    · exact Finmap.lookup_isSome.2 (Finmap.mem_keys.1 (heq ▸ hk))

end BoundedMap
