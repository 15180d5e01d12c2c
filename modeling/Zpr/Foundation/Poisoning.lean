import Mathlib.Logic.Basic

namespace Zpr

/-! # Mutexes that can be poisoned

A thread that panics while it holds a mutex leaves it poisoned for good. Whoever locks it
after that is given the guard inside an error, and decides whether to take it out. -/

variable {Data : Type u}

structure Mutex (Data : Type u) where
  data : Data
  poisoned : Bool
  deriving DecidableEq, Repr

/-- What an attempt to lock gives. The guard comes along in either case. -/
inductive LockResult (Data : Type u)
  | ok (guard : Data)
  | poison_error (guard : Data)
  deriving DecidableEq, Repr

def Mutex.lock (mutex : Mutex Data) : LockResult Data :=
  if mutex.poisoned then .poison_error mutex.data else .ok mutex.data

namespace LockResult

/-- The guard, taken out of the error where there is one. -/
def recover : LockResult Data → Data
  | .ok guard | .poison_error guard => guard

/-- The guard, or else a panic, which is `none`. -/
def unwrap : LockResult Data → Option Data
  | .ok guard => some guard
  | .poison_error _ => none

end LockResult

namespace Mutex

@[simp] theorem recover_lock (mutex : Mutex Data) : mutex.lock.recover = mutex.data := by
  unfold lock
  split <;> rfl

theorem unwrap_lock_of_sound {mutex : Mutex Data} (sound : mutex.poisoned = false) :
    mutex.lock.unwrap = some mutex.data := by
  rw [lock, sound]
  rfl

theorem unwrap_lock_of_poisoned {mutex : Mutex Data} (poisoned : mutex.poisoned = true) :
    mutex.lock.unwrap = none := by
  rw [lock, poisoned]
  rfl

end Mutex

end Zpr
