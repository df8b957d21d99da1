import SessionHost.Host.Basic

namespace SessionHost

/-!
# Break cells and the interrupt target

A request for a break adds one to a break cell, modulo 256, and the host never
reads more into the cell than that.  Requests come by session id, through a
counter, from an interactive end of input, and from an interrupt signal, which
goes to the cell of the target armed last.

Arming pins the counter for good.  Dropping a guard disarms only while the
target is still the cell it armed; guards of one instance cannot tell each
other's registrations apart.
-/

namespace Host

variable {σ : Type}

/-- The break cell of an instance, if it publishes one. -/
def cell? (host : Host σ) (handle : Handle) : Option UInt8 :=
  (host.cells[handle]?).join

/-- Put a value into an instance's cell.  An instance without one is left alone. -/
def setCell (host : Host σ) (handle : Handle) (value : UInt8) : Host σ :=
  { host with cells := host.cells.modify handle (·.map fun _ => value) }

/-- One request for a break: the new value, if there is a cell. -/
def bump (host : Host σ) (handle : Handle) : Option UInt8 × Host σ :=
  match host.cell? handle with
  | none => (none, host)
  | some value => (some (value + 1), host.setCell handle (value + 1))

/-- The same request several times over: the last value, if there was one.  The
requests add up, so they are carried out together. -/
def bumpTimes (times : Nat) (host : Host σ) (handle : Handle) : Option UInt8 × Host σ :=
  match host.cell? handle with
  | none => (none, host)
  | some value =>
    if times = 0 then (none, host)
    else (some (value + .ofNat times), host.setCell handle (value + .ofNat times))

theorem bumpTimes_one (host : Host σ) (handle : Handle) :
    host.bumpTimes 1 handle = host.bump handle := by
  unfold bumpTimes bump
  cases host.cell? handle <;> rfl

/-- A counter for a session, unless its instance publishes no break cell. -/
def resolve (host : Host σ) (session : SessionId) : Option Counter :=
  match host.registry.sessions[session]? with
  | none => none
  | some entry => (host.cell? entry.handle).map fun _ => ⟨session, entry.handle⟩

/-! ## The target -/

/-- Make a counter the target of interrupt signals. -/
def arm (host : Host σ) (counter : Counter) : Host σ :=
  { host with pinned := host.pinned ++ [counter], target := some counter.handle }

/-- Drop the guard of an armed counter. -/
def disarm (host : Host σ) (counter : Counter) : Host σ :=
  if host.target = some counter.handle then { host with target := none } else host

/-- One request to the armed target, and whether there was one. -/
def deliver (host : Host σ) : Bool × Host σ :=
  match host.target with
  | none => (false, host)
  | some handle => (true, (host.bump handle).2)

/-! ## The signal -/

def install (host : Host σ) : Host σ :=
  { host with handler := true }.say [Log.debug "interrupt handler installed" []]

/-- Restore the default disposition, whoever installed the handler. -/
def uninstall (host : Host σ) : Host σ :=
  { host with handler := false }.say [Log.debug "interrupt handler removed" []]

/-- The number of the interrupt signal. -/
def interruptSignal : Nat := 2

/-- Raise the interrupt signal: whether a handler took it. -/
def raise : Hosting σ Bool := do
  let host ← get
  if host.handler then
    modifyGet fun host => (true, host.deliver.2)
  else match host.undisposed with
    | .withheld => return false
    | .fatal => throw (.killed interruptSignal)

end Host

end SessionHost
