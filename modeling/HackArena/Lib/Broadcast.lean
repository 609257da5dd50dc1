import Mathlib.Data.List.Basic
import Mathlib.Logic.Function.Basic

/-!
# Broadcast channels

Every receiver gets the values that are sent after it has subscribed, in
order. The channel keeps a bounded number of values; a receiver that is
further behind is told so and goes on with the oldest value that is kept.
-/

/-- All values sent so far, the oldest first, and the next one that each
receiver has to get. -/
structure Broadcast (α : Type) where
  sent : List α
  next : ℕ → ℕ
  next_le : ∀ receiver, next receiver ≤ sent.length

inductive RecvError where
  | closed
  | lagged (skipped : ℕ)
  deriving DecidableEq

namespace Broadcast

variable {α : Type}

def empty : Broadcast α := ⟨[], fun _ => 0, fun _ => Nat.le_refl 0⟩

/-- The values that a receiver has not got. -/
def unread (c : Broadcast α) (receiver : ℕ) : List α := c.sent.drop (c.next receiver)

def send (c : Broadcast α) (a : α) : Broadcast α where
  sent := c.sent ++ [a]
  next := c.next
  next_le receiver := by
    rw [List.length_append]
    exact Nat.le_add_right_of_le (c.next_le receiver)

/-- The receiver goes on at a position. -/
def move (c : Broadcast α) (receiver position : ℕ) (h : position ≤ c.sent.length) :
    Broadcast α where
  sent := c.sent
  next := Function.update c.next receiver position
  next_le other := by
    by_cases hother : other = receiver
    · rwa [hother, Function.update_self]
    · rw [Function.update_of_ne hother]
      exact c.next_le other

def subscribe (c : Broadcast α) (receiver : ℕ) : Broadcast α :=
  c.move receiver c.sent.length (Nat.le_refl _)

/-- The next value, for a receiver with values to get. -/
def recv (capacity : ℕ) (c : Broadcast α) (receiver : ℕ) : Broadcast α × Except RecvError α :=
  if capacity < (c.unread receiver).length then
    (c.move receiver (c.sent.length - capacity) (Nat.sub_le _ _),
      .error (.lagged ((c.unread receiver).length - capacity)))
  else match h : c.sent[c.next receiver]? with
    | some a => (c.move receiver (c.next receiver + 1) (List.getElem?_eq_some_iff.mp h).1, .ok a)
    | none => (c, .error .closed)

/-- The receiver will learn of a value with `P`, or that it has missed
values. -/
def Pending (capacity : ℕ) (P : α → Prop) (c : Broadcast α) (receiver : ℕ) : Prop :=
  capacity < (c.unread receiver).length ∨ ∃ a ∈ c.unread receiver, P a

variable {capacity : ℕ} {P : α → Prop} {c : Broadcast α} {receiver other : ℕ} {a : α}

@[simp] theorem unread_send (c : Broadcast α) (a : α) (receiver : ℕ) :
    (c.send a).unread receiver = c.unread receiver ++ [a] :=
  List.drop_append_of_le_length (c.next_le receiver)

theorem unread_move_of_ne (hne : other ≠ receiver) {position : ℕ}
    (h : position ≤ c.sent.length) : (c.move receiver position h).unread other = c.unread other := by
  simp [unread, move, hne]

theorem unread_recv_of_ne (hne : other ≠ receiver) :
    (recv capacity c receiver).1.unread other = c.unread other := by
  unfold recv
  split
  · exact unread_move_of_ne hne (Nat.sub_le _ _)
  · split
    · rename_i a ha
      exact unread_move_of_ne hne (List.getElem?_eq_some_iff.mp ha).1
    · rfl

theorem unread_eq_cons (h : c.sent[c.next receiver]? = some a) :
    c.unread receiver = a :: c.sent.drop (c.next receiver + 1) := by
  obtain ⟨hlt, rfl⟩ := List.getElem?_eq_some_iff.mp h
  exact List.drop_eq_getElem_cons hlt

/-- What a receiver gets is the oldest value that it has not got. -/
theorem unread_recv_ok (h : (recv capacity c receiver).2 = .ok a) :
    c.unread receiver = a :: (recv capacity c receiver).1.unread receiver ∧
      (c.unread receiver).length ≤ capacity := by
  revert h
  unfold recv
  split
  · exact nofun
  · rename_i hnear
    split
    · rename_i b hb
      intro h
      obtain rfl := Except.ok.inj h
      refine ⟨?_, Nat.le_of_not_lt hnear⟩
      rw [unread_eq_cons hb]
      simp [unread, move]
    · exact nofun

theorem not_pending_of_unread (h : c.unread receiver = []) : ¬ Pending capacity P c receiver := by
  rintro (hlong | ⟨a, ha, -⟩)
  · rw [h] at hlong
    exact Nat.not_lt_zero _ hlong
  · rw [h] at ha
    cases ha

theorem Pending.congr {c' : Broadcast α} (h : Pending capacity P c receiver)
    (hunread : c'.unread receiver = c.unread receiver) : Pending capacity P c' receiver := by
  unfold Pending at h ⊢
  rwa [hunread]

/-- What will be learnt is not forgotten when more is sent. -/
theorem Pending.send (h : Pending capacity P c receiver) (a : α) :
    Pending capacity P (c.send a) receiver := by
  rcases h with hlong | ⟨b, hb, hP⟩
  · refine Or.inl ?_
    rw [unread_send, List.length_append]
    omega
  · exact Or.inr ⟨b, by rw [unread_send]; exact List.mem_append_left _ hb, hP⟩

/-- Every receiver will learn of a value that is sent. -/
theorem pending_send (c : Broadcast α) (receiver : ℕ) (ha : P a) :
    Pending capacity P (c.send a) receiver :=
  Or.inr ⟨a, by rw [unread_send]; exact List.mem_append_right _ (List.mem_singleton_self a), ha⟩

/-- A value without `P` is not the one to learn of. -/
theorem Pending.recv (h : Pending capacity P c receiver)
    (hok : (Broadcast.recv capacity c receiver).2 = .ok a) (ha : ¬ P a) :
    Pending capacity P (Broadcast.recv capacity c receiver).1 receiver := by
  obtain ⟨hunread, hnear⟩ := unread_recv_ok hok
  rcases h with hlong | ⟨b, hb, hP⟩
  · omega
  · rw [hunread] at hb
    rcases List.mem_cons.mp hb with rfl | hb
    · exact (ha hP).elim
    · exact Or.inr ⟨b, hb, hP⟩

end Broadcast
