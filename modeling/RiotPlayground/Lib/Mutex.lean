import Mathlib.Data.List.Basic

/-!
# A mutex that hands itself over

Unlocking gives the mutex to the first thread that waits for it, and the threads wait in the order
of their priorities. A mutex does not know who locked it.
-/

/-- A mutex: free, or locked with the threads that wait. -/
inductive Mutex (T : Type*)
  | free
  | locked (waiting : List T)
  deriving DecidableEq

namespace Mutex

variable {T : Type*} (prio : T → ℕ)

/-- A thread gets in line behind those of its priority; a smaller number is a higher priority. -/
def enqueue (t : T) : List T → List T
  | [] => [t]
  | u :: us => if prio u ≤ prio t then u :: enqueue t us else t :: u :: us

/-- Whether `t` has the mutex now, or waits for it. -/
def lock (t : T) : Mutex T → Bool × Mutex T
  | .free => (true, .locked [])
  | .locked waiting => (false, .locked (enqueue prio t waiting))

/-- The thread that has the mutex now, if one was waiting. Unlocking a free mutex does nothing. -/
def unlock : Mutex T → Option T × Mutex T
  | .free => (none, .free)
  | .locked [] => (none, .free)
  | .locked (t :: waiting) => (some t, .locked waiting)

@[simp] lemma lock_free (t : T) : lock prio t .free = (true, .locked []) := rfl

@[simp] lemma lock_locked_nil (t : T) :
    lock prio t (.locked []) = (false, .locked [t]) := rfl

@[simp] lemma unlock_free : unlock (.free : Mutex T) = (none, .free) := rfl

@[simp] lemma unlock_locked_nil : unlock (.locked [] : Mutex T) = (none, .free) := rfl

@[simp] lemma unlock_locked_cons (t : T) (waiting : List T) :
    unlock (.locked (t :: waiting)) = (some t, .locked waiting) := rfl

end Mutex
