import SessionHost.Host.Driver

namespace SessionHost

/-!
# Keeping and letting go

A client keeps things under names.  What it keeps is made first and bound
afterwards, so a thing that is displaced is let go of last, with everything
that follows from it: a guard disarms, a route unregisters, a driver removes
the handler, and the last reference to a released session tears it down.
-/

namespace Host

variable {σ : Type} [Engine σ]

/-! ## Letting go of one thing -/

def letGoGuard (host : Host σ) (counter : Counter) : Host σ :=
  (host.disarm counter).reap counter.session

def letGoCounter (host : Host σ) (counter : Counter) : Host σ :=
  host.reap counter.session

/-! ## Binding a name -/

def keepLease (host : Host σ) (name : String) (session : SessionId) : Host σ :=
  { host with leases := host.leases.bind name session }.reap? (host.leases.find? name)

def keepCounter (host : Host σ) (name : String) (counter : Counter) : Host σ :=
  let bound := { host with counters := host.counters.bind name counter }
  match host.counters.find? name with
  | none => bound
  | some displaced => bound.letGoCounter displaced

def keepGuard (host : Host σ) (name : String) (counter : Counter) : Host σ :=
  let bound := { host with guards := host.guards.bind name counter }
  match host.guards.find? name with
  | none => bound
  | some displaced => bound.letGoGuard displaced

def keepRoute (host : Host σ) (name : String) (route : Route) : Host σ :=
  let bound := { host with routes := host.routes.bind name route }
  match host.routes.find? name with
  | none => bound
  | some displaced => bound.unregister displaced

def keepDriver (host : Host σ) (name : String) (driver : Driver) : Host σ :=
  let bound := { host with drivers := host.drivers.bind name driver }
  match host.drivers.find? name with
  | none => bound
  | some displaced => bound.dismiss displaced

/-! ## Dropping a name -/

def dropGuard? (host : Host σ) (name : String) : Option (Host σ) :=
  (host.guards.find? name).map fun counter =>
    { host with guards := host.guards.remove name }.letGoGuard counter

def dropCounter? (host : Host σ) (name : String) : Option (Host σ) :=
  (host.counters.find? name).map fun counter =>
    { host with counters := host.counters.remove name }.letGoCounter counter

def dropDriver? (host : Host σ) (name : String) : Option (Host σ) :=
  (host.drivers.find? name).map fun driver =>
    { host with drivers := host.drivers.remove name }.dismiss driver

def dropRoute? (host : Host σ) (name : String) : Option (Host σ) :=
  (host.routes.find? name).map fun route =>
    { host with routes := host.routes.remove name }.unregister route

def dropLease? (host : Host σ) (name : String) : Option (Host σ) :=
  (host.leases.find? name).map fun session =>
    { host with leases := host.leases.remove name }.reap session

/-- Drop one thing of a name, and say whether there was one.  A name may stand
for several things of different kinds; guards go first and leases last. -/
def dropNamed (host : Host σ) (name : String) : Bool × Host σ :=
  match host.dropGuard? name <|> host.dropCounter? name <|> host.dropDriver? name <|>
      host.dropRoute? name <|> host.dropLease? name with
  | some after => (true, after)
  | none => (false, host)

/-- Drop everything of one kind. -/
def dropEach (drop? : Host σ → String → Option (Host σ)) (names : List String)
    (host : Host σ) : Host σ :=
  names.foldl (fun host name => (drop? host name).getD host) host

/-- Let go of everything that is still held: what clients keep, the session
table and the cancel targets of the bridges. -/
def close (host : Host σ) : Host σ :=
  let host := dropEach dropGuard? (host.guards.map Prod.fst) host
  let host := dropEach dropCounter? (host.counters.map Prod.fst) host
  let host := dropEach dropDriver? (host.drivers.map Prod.fst) host
  let host := dropEach dropRoute? (host.routes.map Prod.fst) host
  let host := dropEach dropLease? (host.leases.map Prod.fst) host
  (List.range host.bridges.length).foldl (fun host bridge => host.setCancelTarget bridge none)
    { host with opened := false }

end Host

end SessionHost
