import Mathlib.Data.List.Basic

namespace Zpr

/-! # Bounded queues and one-shot values between two parties

A channel yields its buffered items, in order, before it reports that its
sender is gone. A one-shot carries at most one value. -/

structure Channel (Item : Type u) where
  capacity : Nat
  buffer : List Item
  senderAlive : Bool
  receiverAlive : Bool
  deriving DecidableEq, Repr

namespace Channel

def create (capacity : Nat) : Channel Item where
  capacity := capacity
  buffer := []
  senderAlive := true
  receiverAlive := true

inductive SendResult
  | sent
  | full
  | closed
  deriving DecidableEq, Repr

inductive Receipt (Item : Type u)
  | item (value : Item)
  | empty
  | disconnected
  deriving DecidableEq, Repr

def trySend (channel : Channel Item) (item : Item) : Channel Item × SendResult :=
  if channel.receiverAlive = false then
    (channel, .closed)
  else if channel.buffer.length < channel.capacity then
    ({ channel with buffer := channel.buffer ++ [item] }, .sent)
  else
    (channel, .full)

def tryRecv (channel : Channel Item) : Channel Item × Receipt Item :=
  match channel.buffer with
  | item :: buffer => ({ channel with buffer := buffer }, .item item)
  | [] => if channel.senderAlive then (channel, .empty) else (channel, .disconnected)

def dropSender (channel : Channel Item) : Channel Item :=
  { channel with senderAlive := false }

/-- Dropping the receiver throws away what nobody will receive. -/
def dropReceiver (channel : Channel Item) : Channel Item :=
  { channel with receiverAlive := false, buffer := [] }

theorem trySend_cases (channel : Channel Item) (item : Item) :
    (channel.trySend item = (channel, .closed) ∧ channel.receiverAlive = false) ∨
      (channel.trySend item = ({ channel with buffer := channel.buffer ++ [item] }, .sent) ∧
        channel.receiverAlive = true ∧ channel.buffer.length < channel.capacity) ∨
      (channel.trySend item = (channel, .full) ∧ channel.receiverAlive = true ∧
        channel.capacity ≤ channel.buffer.length) := by
  cases alive : channel.receiverAlive with
  | false => simp [trySend, alive]
  | true =>
      by_cases room : channel.buffer.length < channel.capacity
      · simp [trySend, alive, room]
      · simp [trySend, alive, room, Nat.le_of_not_lt room]

theorem tryRecv_cases (channel : Channel Item) :
    (∃ item buffer, channel.buffer = item :: buffer ∧
      channel.tryRecv = ({ channel with buffer := buffer }, .item item)) ∨
      (channel.buffer = [] ∧ channel.senderAlive = true ∧
        channel.tryRecv = (channel, .empty)) ∨
      (channel.buffer = [] ∧ channel.senderAlive = false ∧
        channel.tryRecv = (channel, .disconnected)) := by
  cases held : channel.buffer with
  | cons item buffer => exact .inl ⟨item, buffer, rfl, by simp [tryRecv, held]⟩
  | nil =>
      cases alive : channel.senderAlive with
      | true => simp [tryRecv, held, alive]
      | false => simp [tryRecv, held, alive]

@[simp] theorem dropSender_buffer (channel : Channel Item) :
    channel.dropSender.buffer = channel.buffer := rfl

end Channel

/-- A value that is sent and received at most once. `dropped` is a sender that
went away without sending. -/
inductive Oneshot (Value : Type u)
  | waiting
  | sent (value : Value)
  | dropped
  | received
  deriving DecidableEq, Repr

namespace Oneshot

def send (value : Value) : Oneshot Value → Oneshot Value
  | .waiting => .sent value
  | other => other

def dropSender : Oneshot Value → Oneshot Value
  | .waiting => .dropped
  | other => other

/-- What polling the receiver answers: `none` while it has to wait, `some none`
when there will be no value. Nobody polls again after an answer. -/
def poll : Oneshot Value → Oneshot Value × Option (Option Value)
  | .waiting => (.waiting, none)
  | .sent value => (.received, some (some value))
  | .dropped => (.received, some none)
  | .received => (.received, none)

end Oneshot

end Zpr
