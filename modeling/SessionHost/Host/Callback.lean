import SessionHost.Host.Lease
import SessionHost.Text.Utf8

namespace SessionHost

/-!
# Callbacks

An engine calls back with nothing but the address of an instance, so the
bridge is found through the routing table.  A later registration for an
address replaces an earlier one.  Dropping a route removes the entry only
while it still leads to the route's own bridge.

A call into an engine is served to its end here: every request of the
engine's conversation becomes a callback, a look at the break cell, a signal
or a journal entry.
-/

namespace Host

variable {σ : Type}

/-! ## The routing table -/

def bridgeAt? (host : Host σ) (address : Address) : Option BridgeId :=
  (host.routing.find? fun route => route.address = address).map (·.bridge)

/-- Route the callbacks of an address to a bridge. -/
def register (host : Host σ) (address : Address) (bridge : BridgeId) : Route × Host σ :=
  let route : Route := ⟨address, bridge⟩
  (route,
    { host with
      routing := (host.routing.filter fun other : Route => other.address != address) ++ [route]
      }.say [Log.debug "callback route registered" [("instance", address.text)]])

/-- Drop a route. -/
def unregister (host : Host σ) (route : Route) : Host σ :=
  if host.bridgeAt? route.address = some route.bridge then
    { host with
      routing := host.routing.filter fun other : Route => other.address != route.address
      }.say [Log.debug "callback route removed" [("instance", route.address.text)]]
  else host

/-! ## Events on a bridge -/

/-- Show text on a bridge. -/
def display (host : Host σ) (id : BridgeId) (kind : OutputKind) (payload : Bytes) : Host σ :=
  match host.bridges[id]? with
  | none => host
  | some bridge =>
    let (bridge, records) := bridge.display kind payload
    (host.setBridge id bridge).say records

/-- Record an exit event on a bridge. -/
def recordExit (id : BridgeId) (status : Int32) : Hosting σ Unit := do
  let host ← get
  match host.bridges[id]? with
  | none => return ()
  | some bridge =>
    let (bridge, records) := bridge.recordExit status
    set ((host.setBridge id bridge).say records)

/-- Invoke the exit hook of a bridge.  One that ends the process does so with the
status of its own event. -/
def invokeHook (id : BridgeId) (status : Int32) : Hosting σ Unit := do
  let host ← get
  match host.bridges[id]? with
  | none => return ()
  | some bridge =>
    set (host.setBridge id (bridge.invokeHook status))
    if bridge.hook = .terminate then throw (.exited status)

/-- An exit event on a bridge. -/
def exitEvent (id : BridgeId) (status : Int32) : Hosting σ Unit := do
  recordExit id status
  invokeHook id status

/-- Ask a bridge for the next line. -/
def readLine (id : BridgeId) (prompt : Bytes) : Hosting σ Bytes := do
  let host ← get
  match host.bridges[id]? with
  | none => return []
  | some bridge =>
    let turn := bridge.nextLine prompt (bridge.cancel.bind fun counter => host.cell? counter.handle)
    let host := (host.setBridge id turn.bridge).say turn.log
    set (match bridge.cancel, turn.cell with
      | some counter, some value => host.setCell counter.handle value
      | _, _ => host)
    match turn.line with
    | some line => return line
    | none => throw .stuck

/-- Ask a bridge for the next line as text. -/
def readText (id : BridgeId) (prompt : String) : Hosting σ String := do
  return Utf8.decodeLossy (← readLine id (Bytes.ofString prompt))

/-! ## What the engine reaches -/

/-- What an engine reads where no bridge is registered for it. -/
def unroutedInput : Bytes := Bytes.ofString "2!:55''"

/-- The output callback. -/
def outputCallback (address : Address) (code : Int32) (argument : OutputArgument) :
    Hosting σ Unit := do
  let host ← get
  match host.bridgeAt? address with
  | none =>
    modify (·.say [Log.warn "output from unrouted engine instance"
      [("instance", address.text), ("kind", toString code.toInt)]])
  | some bridge =>
    match OutputKind.ofCode code with
    | .exit => exitEvent bridge argument.status
    | kind => modify (·.display bridge kind argument.payload)

/-- The input callback.  The line goes back as a NUL-terminated string. -/
def inputCallback (address : Address) (prompt : Option Bytes) : Hosting σ Bytes := do
  let host ← get
  match host.bridgeAt? address with
  | none =>
    modify (·.say [Log.warn "input request from unrouted engine instance"
      [("instance", address.text)]])
    return unroutedInput
  | some bridge =>
    let line ← readLine bridge (prompt.getD [])
    return line.terminated

/-- Serve an engine's conversation to its end. -/
def converse {α : Type} (handle : Handle) : Conversation α → Hosting σ α
  | .finished result => return result
  | .output code argument next => do
    outputCallback (.at handle) code argument
    converse handle next
  | .input prompt next => do
    let line ← inputCallback (.at handle) prompt
    converse handle (next line)
  | .readCell next => do
    let host ← get
    converse handle (next (host.cell? handle))
  | .writeCell value next => do
    modify (·.setCell handle value)
    converse handle next
  | .signal next => do
    let handled ← raise
    converse handle (next handled)
  | .note entry next => do
    modify (·.enter (.noted handle entry))
    converse handle next

/-- Call into the engine, which is handed the arguments of the call. -/
def call [Engine σ] (handle : Handle) (request : Call) : Hosting σ request.Result := do
  modify (·.enter (.called handle request))
  let host ← get
  let (answer, engine) ← converse handle
    (Engine.respond host.engine handle request.symbol request.arguments)
  modify fun host => { host with engine }
  return request.received answer

end Host

end SessionHost
