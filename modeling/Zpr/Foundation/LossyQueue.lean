import Mathlib.Data.List.Basic

namespace Zpr

/-! # Bounded queues that make room by forgetting

A queue that is full throws its oldest item away to take a new one. The abstract
queue here remembers how every item left it, so that what went missing can be
compared with what a real queue has counted. -/

/-- How an item left the queue. -/
inductive Departure (Item : Type u)
  | taken (item : Item)
  | discarded (item : Item)

namespace Departure

def item : Departure Item → Item
  | .taken item | .discarded item => item

def taken? : Departure Item → Option Item
  | .taken item => some item
  | .discarded _ => none

def discarded? : Departure Item → Option Item
  | .taken _ => none
  | .discarded item => some item

end Departure

structure LossyQueue (Item : Type u) (capacity : Nat) where
  /-- latest last -/
  departed : List (Departure Item)
  queue : List Item
  bounded : queue.length ≤ capacity

namespace LossyQueue

variable {Item : Type u} {capacity : Nat}

def empty : LossyQueue Item capacity where
  departed := []
  queue := []
  bounded := Nat.zero_le capacity

/-- Everything that was ever put into the queue. -/
def received (history : LossyQueue Item capacity) : List Item :=
  history.departed.map Departure.item ++ history.queue

def taken (history : LossyQueue Item capacity) : List Item :=
  history.departed.filterMap Departure.taken?

def discarded (history : LossyQueue Item capacity) : List Item :=
  history.departed.filterMap Departure.discarded?

def receive (history : LossyQueue Item capacity) (room : history.queue.length < capacity)
    (item : Item) : LossyQueue Item capacity where
  departed := history.departed
  queue := history.queue ++ [item]
  bounded := by
    rw [List.length_append, List.length_singleton]
    exact room

/-- Let the oldest item go, in one way or the other. -/
def depart (history : LossyQueue Item capacity) (how : Item → Departure Item)
    (held : history.queue = item :: rest) : LossyQueue Item capacity where
  departed := history.departed ++ [how item]
  queue := rest
  bounded := by
    have bounded := history.bounded
    rw [held, List.length_cons] at bounded
    exact Nat.le_of_succ_le bounded

@[simp] theorem received_receive (history : LossyQueue Item capacity)
    (room : history.queue.length < capacity) (item : Item) :
    (history.receive room item).received = history.received ++ [item] := by
  simp [received, receive]

@[simp] theorem taken_receive (history : LossyQueue Item capacity)
    (room : history.queue.length < capacity) (item : Item) :
    (history.receive room item).taken = history.taken := rfl

@[simp] theorem discarded_receive (history : LossyQueue Item capacity)
    (room : history.queue.length < capacity) (item : Item) :
    (history.receive room item).discarded = history.discarded := rfl

/-- Departing changes nothing about what was received. -/
theorem received_depart (history : LossyQueue Item capacity) (how : Item → Departure Item)
    (held : history.queue = item :: rest) (same : (how item).item = item) :
    (history.depart how held).received = history.received := by
  simp [received, depart, held, same]

@[simp] theorem taken_depart (history : LossyQueue Item capacity) (how : Item → Departure Item)
    (held : history.queue = item :: rest) :
    (history.depart how held).taken = history.taken ++ (how item).taken?.toList := by
  cases gone : (how item).taken? <;> simp [taken, depart, gone]

@[simp] theorem discarded_depart (history : LossyQueue Item capacity)
    (how : Item → Departure Item) (held : history.queue = item :: rest) :
    (history.depart how held).discarded = history.discarded ++ (how item).discarded?.toList := by
  cases gone : (how item).discarded? <;> simp [discarded, depart, gone]

/-- What is in the queue is what was received last. -/
theorem queue_suffix (history : LossyQueue Item capacity) : history.queue <:+ history.received :=
  List.suffix_append _ _

theorem filterMap_sublist_map {look : Value → Option Item} {whole : Value → Item}
    (agree : ∀ value item, look value = some item → whole value = item) (values : List Value) :
    (values.filterMap look).Sublist (values.map whole) := by
  induction values with
  | nil => exact .slnil
  | cons value values induction =>
      cases seen : look value with
      | none =>
          rw [List.filterMap_cons_none seen]
          exact induction.cons _
      | some item =>
          rw [List.filterMap_cons_some seen, List.map_cons, agree value item seen]
          exact induction.cons_cons _

/-- Nothing is taken twice, or out of order. -/
theorem taken_sublist (history : LossyQueue Item capacity) :
    history.taken.Sublist history.received := by
  apply List.Sublist.trans ?_ (List.sublist_append_left _ _)
  apply filterMap_sublist_map
  intro departure item seen
  cases departure <;> cases seen
  rfl

/-- Every item is accounted for. -/
theorem length_received (history : LossyQueue Item capacity) :
    history.received.length =
      history.taken.length + history.discarded.length + history.queue.length := by
  have split : ∀ departed : List (Departure Item), departed.length =
      (departed.filterMap Departure.taken?).length +
        (departed.filterMap Departure.discarded?).length := by
    intro departed
    induction departed with
    | nil => rfl
    | cons departure departed induction =>
        cases departure with
        | taken item =>
            simp only [List.filterMap_cons, Departure.taken?, Departure.discarded?,
              List.length_cons, induction]
            omega
        | discarded item =>
            simp only [List.filterMap_cons, Departure.taken?, Departure.discarded?,
              List.length_cons, induction]
            omega
  rw [received, List.length_append, List.length_map, split]
  rfl

end LossyQueue

end Zpr
