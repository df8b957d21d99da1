import SessionHost.Registry.Basic

namespace SessionHost

/-!
# A session table among threads

Any number of threads may create sessions on one table.  One of them at a time
holds the creation lock, from the reservation of a slot over the call of the factory
to the append.  The table itself is not locked for so long: between any two of
these steps threads look sessions up and release them.

A thread whose factory unwinds leaves the lock abandoned.  The next one that takes
the lock finds it so, lets go of it, and only then declares it in order; while it is
about to do that others may take the lock.
-/

/-- The number of a thread. -/
abbrev ThreadId := Nat

namespace Registry

/-- Append an instance.  A table without a free slot moves to a place with twice as
many, and the flag tells whether it had to. -/
def append (registry : Registry) (handle : Handle) : Bool × Registry :=
  if registry.size < registry.capacity then (false, registry.enter handle)
  else (true, { registry with capacity := max 4 (2 * registry.capacity) }.enter handle)

end Registry

namespace SharedTable

/-! ## Threads on a table -/

/-- Where a thread is in a creation. -/
inductive Stage where
  | idle
  /-- It holds the creation lock, which it found in order. -/
  | locked
  /-- It has a slot, and asks the factory. -/
  | reserved
  /-- The factory gave it an instance. -/
  | made (handle : Handle)
  /-- It is about to let go of the lock and to come back with this answer. -/
  | leaving (answer : Except RegistryError SessionId)
  /-- It holds the lock, which it found abandoned. -/
  | abandoned
  /-- It let go of an abandoned lock, and is about to declare it in order. -/
  | clearing

inductive Move where
  | lock
  | reserve
  /-- The factory gives an instance or none. -/
  | create (made : Option Handle)
  /-- The factory unwinds. -/
  | unwind
  | append
  | unlock
  | clear
  | lookup (raw : Int)
  | release (raw : Int)

inductive Event where
  /-- A session was entered under an id, and the table had to move for it or not. -/
  | appended (thread : ThreadId) (id : SessionId) (handle : Handle) (moved : Bool)
  /-- A creation came back. -/
  | returned (thread : ThreadId) (answer : Except RegistryError SessionId)
  /-- A creation ended in a factory that unwound. -/
  | unwound (thread : ThreadId)
  | lookedUp (thread : ThreadId) (raw : Int) (answer : Except RegistryError SessionId)
  | released (thread : ThreadId) (raw : Int) (answer : Except RegistryError SessionId)

end SharedTable

/-- A table, its creation lock, and how far every thread is. -/
structure SharedTable where
  registry : Registry
  /-- Who holds the creation lock. -/
  holder : Option ThreadId := none
  stage : ThreadId → SharedTable.Stage := fun _ => .idle
  /-- What happened, in order. -/
  events : List SharedTable.Event := []

namespace SharedTable

def advance (shared : SharedTable) (thread : ThreadId) (stage : Stage) : SharedTable :=
  { shared with stage := fun other => if other = thread then stage else shared.stage other }

def record (shared : SharedTable) (event : Event) : SharedTable :=
  { shared with events := shared.events ++ [event] }

/-- Take the free creation lock, and see whether it was abandoned. -/
def lock (shared : SharedTable) (thread : ThreadId) : SharedTable :=
  { shared.advance thread (if shared.registry.abandoned then .abandoned else .locked) with
    holder := some thread }

def reserve (shared : SharedTable) (thread : ThreadId) : SharedTable :=
  match shared.registry.reserveSlot with
  | .error cause => shared.advance thread (.leaving (.error (.allocationFailure cause)))
  | .ok registry => { shared.advance thread .reserved with registry }

def create (shared : SharedTable) (thread : ThreadId) : Option Handle → SharedTable
  | none => shared.advance thread (.leaving (.error (.allocationFailure .noInstance)))
  | some handle => shared.advance thread (.made handle)

/-- The lock is let go of as the thread unwinds, and is abandoned by that. -/
def unwind (shared : SharedTable) (thread : ThreadId) : SharedTable :=
  { shared.advance thread .idle with
    registry := { shared.registry with abandoned := true }
    holder := none }.record (.unwound thread)

def append (shared : SharedTable) (thread : ThreadId) (handle : Handle) : SharedTable :=
  let id := shared.registry.size
  let (moved, registry) := shared.registry.append handle
  { shared.advance thread (.leaving (.ok id)) with registry }.record
    (.appended thread id handle moved)

/-- Let go of the lock and come back. -/
def leave (shared : SharedTable) (thread : ThreadId) (answer : Except RegistryError SessionId) :
    SharedTable :=
  { shared.advance thread .idle with holder := none }.record (.returned thread answer)

/-- Let go of an abandoned lock. -/
def letGo (shared : SharedTable) (thread : ThreadId) : SharedTable :=
  { shared.advance thread .clearing with holder := none }

/-- Declare the lock in order and come back. -/
def clear (shared : SharedTable) (thread : ThreadId) : SharedTable :=
  { shared.advance thread .idle with
    registry := { shared.registry with abandoned := false } }.record
      (.returned thread (.error .lockAbandoned))

def lookup (shared : SharedTable) (thread : ThreadId) (raw : Int) : SharedTable :=
  shared.record (.lookedUp thread raw (shared.registry.lookup raw))

def release (shared : SharedTable) (thread : ThreadId) (raw : Int) : SharedTable :=
  let (answer, registry) := shared.registry.release raw
  { shared with registry }.record (.released thread raw answer)

/-- One step of a thread, if it can be taken.  Lookups and releases can be at any
time. -/
def step (shared : SharedTable) (thread : ThreadId) (move : Move) : Option SharedTable :=
  match shared.stage thread, move with
  | _, .lookup raw => some (shared.lookup thread raw)
  | _, .release raw => some (shared.release thread raw)
  | .idle, .lock => if shared.holder.isNone then some (shared.lock thread) else none
  | .locked, .reserve => some (shared.reserve thread)
  | .reserved, .create made => some (shared.create thread made)
  | .reserved, .unwind => some (shared.unwind thread)
  | .made handle, .append => some (shared.append thread handle)
  | .leaving answer, .unlock => some (shared.leave thread answer)
  | .abandoned, .unlock => some (shared.letGo thread)
  | .clearing, .clear => some (shared.clear thread)
  | _, _ => none

/-- Threads take their steps in turn, in whatever order. -/
def run (shared : SharedTable) : List (ThreadId × Move) → Option SharedTable
  | [] => some shared
  | (thread, move) :: later => (shared.step thread move).bind fun next => next.run later

end SharedTable

end SessionHost
