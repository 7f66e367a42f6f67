import Mathlib.Data.List.Basic

/-!
# Go channels

`Chan α` is a channel: a FIFO buffer of fixed capacity and whether the channel is closed. `send` and
`recv` are the communications that do not wait for the other side, `none` standing for a goroutine
that blocks; on an unbuffered channel, sender and receiver meet (`Idle`) and the value does not pass
through the buffer.
-/

set_option autoImplicit false

/-- A channel of capacity `cap`. -/
structure Chan (α : Type*) where
  cap : Nat
  buf : List α
  closed : Bool
  le_cap : buf.length ≤ cap

namespace Chan

variable {α : Type*}

/-- `make(chan α, cap)`. -/
def make (cap : Nat) : Chan α := ⟨cap, [], false, Nat.zero_le cap⟩

/-- A send into the buffer. A send on a closed channel panics and is no step of a program that
goes on. -/
def send (c : Chan α) (x : α) : Option (Chan α) :=
  if h : c.closed = false ∧ c.buf.length < c.cap then
    some { c with buf := c.buf ++ [x], le_cap := by simp; omega }
  else none

/-- A receive from the buffer, or from a closed channel whose buffer is drained. -/
def recv (c : Chan α) : Option (Option α × Chan α) :=
  match h : c.buf with
  | x :: rest => some (some x, ⟨c.cap, rest, c.closed, by
      have := c.le_cap
      simp only [h, List.length_cons] at this
      omega⟩)
  | [] => if c.closed then some (none, c) else none

/-- Nothing is between a sender and a receiver that are both ready. -/
def Idle (c : Chan α) : Prop := c.closed = false ∧ c.buf = []

/-- `close(c)`. -/
def close (c : Chan α) : Chan α := { c with closed := true }

variable {c c' : Chan α} {x : α}

theorem buf_of_send (h : c.send x = some c') : c'.buf = c.buf ++ [x] := by
  unfold send at h
  split at h
  · cases h; rfl
  · cases h

theorem closed_of_send (h : c.send x = some c') : c.closed = false ∧ c'.closed = false := by
  unfold send at h
  split at h
  · rename_i hopen
    cases h
    exact ⟨hopen.1, hopen.1⟩
  · cases h

theorem cap_of_send (h : c.send x = some c') : c'.cap = c.cap := by
  unfold send at h
  split at h
  · cases h; rfl
  · cases h

/-- A send does not block while the buffer has room. -/
theorem exists_send (hopen : c.closed = false) (hroom : c.buf.length < c.cap) (x : α) :
    ∃ c', c.send x = some c' := ⟨_, dif_pos ⟨hopen, hroom⟩⟩

theorem send_eq_none (hopen : c.closed = false) : c.send x = none ↔ c.cap ≤ c.buf.length := by
  unfold send
  split
  · rename_i h
    exact iff_of_false (by simp) (by omega)
  · rename_i h
    exact iff_of_true rfl (Nat.le_of_not_lt fun hlt => h ⟨hopen, hlt⟩)

theorem recv_some (h : c.recv = some (some x, c')) :
    c.buf = x :: c'.buf ∧ c'.closed = c.closed := by
  unfold recv at h
  split at h
  · rename_i hb
    cases h
    exact ⟨hb, rfl⟩
  · split at h <;> cases h

theorem cap_of_recv {y : Option α} (h : c.recv = some (y, c')) : c'.cap = c.cap := by
  unfold recv at h
  split at h
  · cases h; rfl
  · split at h
    · cases h; rfl
    · cases h

/-- A receive does not block while something is in the buffer. -/
theorem exists_recv (h : c.buf ≠ []) : ∃ x c', c.recv = some (some x, c') := by
  unfold recv
  split
  · exact ⟨_, _, rfl⟩
  · rename_i hb
    exact absurd hb h

/-- A receive from a closed channel does not block. -/
theorem recv_closed (hbuf : c.buf = []) (hclosed : c.closed = true) : c.recv = some (none, c) := by
  unfold recv
  split
  · rename_i hb
    rw [hbuf] at hb
    cases hb
  · rw [if_pos hclosed]

theorem recv_none (h : c.recv = some (none, c')) : c.buf = [] ∧ c.closed = true := by
  unfold recv at h
  split at h
  · cases h
  · rename_i hb
    split at h
    · rename_i hc
      exact ⟨hb, hc⟩
    · cases h

end Chan
