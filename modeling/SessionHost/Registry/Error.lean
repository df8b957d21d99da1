namespace SessionHost

/-!
# Why the session table refuses

Three things can go wrong with the session table, and each has a sentinel
code for callers that only see numbers.  An allocation fails for one of the
causes listed here.
-/

/-- Why no session could be allocated. -/
inductive AllocationCause where
  /-- As many sessions as the configuration allows were created before. -/
  | limitReached (limit : Nat)
  /-- The table would be larger than any collection may be. -/
  | capacityOverflow
  /-- The machine has no room for the table. -/
  | outOfMemory
  /-- The engine's factory gave no instance. -/
  | noInstance
  /-- A cause that somebody else put into words. -/
  | described (text : String)
deriving DecidableEq, Repr

def AllocationCause.message : AllocationCause → String
  | limitReached limit => "session limit of " ++ toString limit ++ " reached"
  | capacityOverflow => "memory allocation failed because the computed capacity " ++
      "exceeded the collection's maximum"
  | outOfMemory => "memory allocation failed because the memory allocator returned an error"
  | noInstance => "engine factory returned no instance"
  | described text => text

inductive RegistryError where
  /-- No live session has this id.  Ids arrive as signed integers, and the
  error carries the one that was asked for. -/
  | sessionNotFound (id : Int)
  | allocationFailure (cause : AllocationCause)
  /-- The holder of the creation lock unwound out of the factory. -/
  | lockAbandoned
deriving DecidableEq, Repr

namespace RegistryError

/-- The sentinel status of an error. -/
def code : RegistryError → Int
  | sessionNotFound _ => -1
  | allocationFailure _ => -2
  | lockAbandoned => -3

def message : RegistryError → String
  | sessionNotFound id => "invalid session id " ++ toString id
  | allocationFailure cause => "session allocation failed: " ++ cause.message
  | lockAbandoned => "session registry lock was abandoned"

end RegistryError

end SessionHost
