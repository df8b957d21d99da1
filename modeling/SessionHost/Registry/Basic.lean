import SessionHost.Engine.Call
import SessionHost.Registry.Error

namespace SessionHost

/-!
# The session table

Sessions are numbered from zero in the order in which their instances were
made, and a number is never given out twice.  The table keeps every session
that was ever created: releasing one only marks it, because leases on it may
outlive its entry.  Storage is reserved one chunk at a time, and only when a
new session would not fit, so no instance ever moves.

Creating a session has two halves with the engine's factory between them.
`prepare` refuses or makes room, and `enter` records what the factory made.
A factory that unwinds leaves the creation lock abandoned, and the next
caller is told so, once.
-/

/-- The number of a session. -/
abbrev SessionId := Nat

/-- One instance in the table. -/
structure Session where
  handle : Handle
  /-- No id leads here any more; the instance goes when its last lease goes. -/
  released : Bool := false
  /-- The engine has torn the instance down. -/
  freed : Bool := false
deriving DecidableEq, Repr

/-- The debugging text of a session; its address is shown in hexadecimal. -/
def Session.describe (id : SessionId) (session : Session) : String :=
  "Session \x7b id: SessionId(" ++ toString id ++ "), handle: EngineHandle(0x" ++
    String.ofList (Nat.toDigits 16 session.handle) ++ "), released: " ++
    toString session.released ++ " \x7d"

/-! ## Reserving storage -/

/-- How many slots the machine can hold at once. -/
structure Memory where
  slots : Nat
deriving DecidableEq, Repr

namespace Memory

/-- A machine with 47-bit addresses and slots of eight bytes. -/
def machine : Memory := ⟨Nat.pow 2 44⟩

/-- The most bytes that one collection may take. -/
def largestCollection : Nat := Nat.pow 2 63 - 1

/-- Reserve room for a table of the given number of slots. -/
def reserve (memory : Memory) (slots : Nat) : Except AllocationCause Unit :=
  if largestCollection < 8 * slots then .error .capacityOverflow
  else if memory.slots < slots then .error .outOfMemory
  else .ok ()

end Memory

/-! ## The table -/

structure RegistryConfig where
  /-- Slots added each time storage is used up; zero is read as one. -/
  chunkSize : Nat := 1024
  /-- The most sessions ever created. -/
  maxSessions : Option Nat := none
deriving DecidableEq, Repr

structure Registry where
  memory : Memory
  chunkSize : Nat
  maxSessions : Option Nat
  capacity : Nat
  /-- How often storage has grown past its first chunk. -/
  growths : Nat
  /-- The last creation unwound out of the factory, and nobody was told yet. -/
  abandoned : Bool
  /-- Every session ever created, at its id. -/
  sessions : Array Session
deriving DecidableEq, Repr

namespace Registry

/-- A table with one chunk of storage and no sessions. -/
def init (memory : Memory) (config : RegistryConfig) : Except RegistryError Registry :=
  let chunkSize := max config.chunkSize 1
  match memory.reserve chunkSize with
  | .error cause => .error (.allocationFailure cause)
  | .ok () => .ok
    { memory, chunkSize, maxSessions := config.maxSessions, capacity := chunkSize,
      growths := 0, abandoned := false, sessions := #[] }

/-- Whether the configured number of sessions has been created. -/
def limit? (registry : Registry) : Option Nat :=
  registry.maxSessions.filter fun limit => limit ≤ registry.sessions.size

/-- Make room for one more session, by one more chunk if there is none. -/
def reserve (registry : Registry) : Except AllocationCause Registry :=
  if registry.sessions.size < registry.capacity then .ok registry
  else
    match registry.memory.reserve (registry.sessions.size + registry.chunkSize) with
    | .error cause => .error cause
    | .ok () => .ok
      { registry with
        capacity := registry.sessions.size + registry.chunkSize
        growths := registry.growths + 1 }

/-- Make room for one more session, as long as there may be more. -/
def reserveSlot (registry : Registry) : Except AllocationCause Registry :=
  match registry.limit? with
  | some limit => .error (.limitReached limit)
  | none => registry.reserve

/-- The half of a creation that comes before the factory.  The order of the
refusals is fixed: an abandoned lock, then the limit, then the storage. -/
def prepare (registry : Registry) : Except RegistryError Unit × Registry :=
  if registry.abandoned then (.error .lockAbandoned, { registry with abandoned := false })
  else match registry.reserveSlot with
    | .error cause => (.error (.allocationFailure cause), registry)
    | .ok grown => (.ok (), grown)

/-- How many ids have been given out, those of released sessions included.  It
is also the id that is given out next. -/
def size (registry : Registry) : Nat :=
  registry.sessions.size

/-- The half of a creation that comes after the factory: enter the instance
under the next id. -/
def enter (registry : Registry) (handle : Handle) : Registry :=
  { registry with sessions := registry.sessions.push { handle } }

/-- Ids arrive as signed integers; a negative one names no session. -/
def sessionId (raw : Int) : Except RegistryError SessionId :=
  if 0 ≤ raw then .ok raw.toNat else .error (.sessionNotFound raw)

/-- The session of an id, as long as it has not been released. -/
def lookup (registry : Registry) (raw : Int) : Except RegistryError SessionId :=
  match sessionId raw with
  | .error error => .error error
  | .ok id =>
    match registry.sessions[id]? with
    | some session => if session.released then .error (.sessionNotFound raw) else .ok id
    | none => .error (.sessionNotFound raw)

/-- Change one session in place. -/
def update (registry : Registry) (id : SessionId) (change : Session → Session) : Registry :=
  { registry with sessions := registry.sessions.modify id change }

/-- Take a session out of the table.  Leases on it stay good. -/
def release (registry : Registry) (raw : Int) : Except RegistryError SessionId × Registry :=
  match registry.lookup raw with
  | .error error => (.error error, registry)
  | .ok id => (.ok id, registry.update id fun session => { session with released := true })

/-- The last id that was given out. -/
def highest? (registry : Registry) : Option SessionId :=
  if registry.size = 0 then none else some (registry.size - 1)

/-- How many sessions have not been released. -/
def live (registry : Registry) : Nat :=
  registry.sessions.countP fun session => !session.released

end Registry

end SessionHost
