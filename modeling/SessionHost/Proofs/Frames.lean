import SessionHost.Proofs.Teardown

namespace SessionHost

/-!
# Frames

Many facts about a host are of one kind: how a later state relates to an earlier
one, whatever the host did in between.  All that it does is put together from a
few changes, so a relation that holds along each of these, and can be chained,
holds along every operation and every run.  Such a relation is a frame.  The
changes are those of the fields below; everything else that an operation does
only makes one of them follow another.
-/

namespace Host

variable {σ : Type} {host before after : Host σ} {handle : Handle}

/-- What there is of a host apart from what is kept, routed, armed and said. -/
structure Substance (σ : Type) where
  engine : σ
  cells : Array (Option UInt8)
  registry : Registry
  bridges : List Bridge
  journal : List Entry

def substance (host : Host σ) : Substance σ where
  engine := host.engine
  cells := host.cells
  registry := host.registry
  bridges := host.bridges
  journal := host.journal

theorem disarm_substance (host : Host σ) (counter : Counter) :
    (host.disarm counter).substance = host.substance := by
  unfold disarm
  split
  · rfl
  · rfl

theorem unregister_substance (host : Host σ) (route : Route) :
    (host.unregister route).substance = host.substance := by
  unfold unregister
  split
  · rfl
  · rfl

/-- A relation between an earlier and a later state that holds along every change
that a host can make. -/
structure Frame [Engine σ] (Relates : Host σ → Host σ → Prop) : Prop where
  refl : ∀ host, Relates host host
  trans : ∀ {first second third},
    Relates first second → Relates second third → Relates first third
  /-- Things are kept and dropped, routed, armed and said. -/
  aside : ∀ {before after}, after.substance = before.substance → Relates before after
  /-- An engine answers a call. -/
  served : ∀ {handle before after}, Served handle before after → Relates before after
  bound : ∀ {host : Host σ} {id bridge} (cancel : Option Counter),
    host.bridges[id]? = some bridge → Relates host (host.setBridge id { bridge with cancel })
  marked : ∀ (host : Host σ) (id : SessionId), Relates host (host.marked id)
  freed : ∀ (host : Host σ) (id : SessionId) (session : Session),
    host.registry.sessions[id]? = some session → Relates host (host.free id session.handle)
  created : ∀ host : Host σ, Hosting.Leaves acquire host (Relates host)

namespace Frame

variable [Engine σ] {Relates : Host σ → Host σ → Prop} (frame : Frame Relates)

include frame

/-- What one part of a computation relates, the rest of it goes on from. -/
theorem leaves_bind {α β : Type} {first : Hosting σ α} {next : α → Hosting σ β}
    (relates : Hosting.Leaves first host (Relates host))
    (onward : ∀ value middle, Hosting.Leaves (next value) middle (Relates middle)) :
    Hosting.Leaves (first >>= next) host (Relates host) := by
  apply relates.bind
  intro value middle related
  exact (onward value middle).mono fun _ => frame.trans related

/-- Whatever a host does aside comes before what it does next. -/
theorem onward {next : Host σ} (aside : next.substance = host.substance)
    (related : Relates next after) : Relates host after :=
  frame.trans (frame.aside aside) related

theorem say_related (host : Host σ) (records : List Log.Record) : Relates host (host.say records) :=
  frame.aside rfl

theorem leaves_served {α : Type} {computation : Hosting σ α}
    (served : Hosting.Leaves computation host (Served handle host)) :
    Hosting.Leaves computation host (Relates host) :=
  served.mono fun _ => frame.served

/-! ## What an engine asks for -/

theorem readLine_related (host : Host σ) (id : BridgeId) (prompt : Bytes) :
    Hosting.Leaves (readLine id prompt) host (Relates host) := by
  have served : Hosting.Leaves (readLine id prompt) host (Served 0 host) :=
    readLine_served host id prompt
  exact frame.leaves_served served

theorem call_related (handle : Handle) (request : Call) (host : Host σ) :
    Hosting.Leaves (call handle request) host (Relates host) :=
  frame.leaves_served (call_served request host)

/-! ## Letting go -/

theorem reap_related (host : Host σ) (id : SessionId) : Relates host (host.reap id) := by
  apply reap_keeps (Relates host)
  · intro session found
    exact frame.freed host id session found
  · exact frame.refl host

theorem setCancelTarget_related (host : Host σ) (id : BridgeId) (counter : Option Counter) :
    Relates host (host.setCancelTarget id counter) := by
  apply setCancelTarget_keeps (Relates host)
  · intro bridge found
    exact frame.bound counter found
  · intro next session related
    exact frame.trans related (frame.reap_related next session)
  · exact frame.refl host

theorem attach_related (host : Host σ) (bridge : BridgeId) (session : SessionId)
    (counter interrupt : Option Counter) :
    Relates host (host.attach bridge session counter interrupt) := by
  apply attach_keeps (Relates host)
  · intro next records related
    exact frame.trans related (frame.say_related next records)
  · intro next related
    exact frame.trans related (frame.setCancelTarget_related next bridge counter)
  · intro next related held _
    exact frame.trans related (frame.aside rfl)
  · exact frame.refl host

theorem letGoGuard_related (host : Host σ) (counter : Counter) :
    Relates host (host.letGoGuard counter) :=
  frame.onward (disarm_substance host counter)
    (frame.reap_related (host.disarm counter) counter.session)

/-- The handler goes first, then the lease, the route and the guard. -/
theorem dismiss_related (host : Host σ) (driver : Driver) : Relates host (host.dismiss driver) := by
  have dropped (next : Host σ) (active : Active) :
      Relates next ((next.reap active.session).unregister active.route) :=
    frame.trans (frame.reap_related next active.session)
      (frame.aside (unregister_substance _ active.route))
  unfold dismiss
  cases driver.active with
  | none => exact frame.refl host
  | some active =>
      dsimp only
      cases active.interrupt with
      | none => exact dropped host active
      | some counter =>
          have uninstalled : host.uninstall.substance = host.substance := rfl
          exact frame.trans (frame.onward uninstalled (dropped _ active))
            (frame.letGoGuard_related _ counter)

/-! ## What a client keeps and drops -/

theorem keepLease_related (host : Host σ) (name : String) (session : SessionId) :
    Relates host (host.keepLease name session) := by
  have bound : Relates host { host with leases := host.leases.bind name session } := frame.aside rfl
  unfold keepLease
  cases host.leases.find? name with
  | none => exact bound
  | some displaced => exact frame.trans bound (frame.reap_related _ displaced)

theorem keepCounter_related (host : Host σ) (name : String) (counter : Counter) :
    Relates host (host.keepCounter name counter) := by
  have bound : Relates host { host with counters := host.counters.bind name counter } :=
    frame.aside rfl
  unfold keepCounter
  cases host.counters.find? name with
  | none => exact bound
  | some displaced => exact frame.trans bound (frame.reap_related _ displaced.session)

theorem keepGuard_related (host : Host σ) (name : String) (counter : Counter) :
    Relates host (host.keepGuard name counter) := by
  have bound : Relates host { host with guards := host.guards.bind name counter } := frame.aside rfl
  unfold keepGuard
  cases host.guards.find? name with
  | none => exact bound
  | some displaced => exact frame.trans bound (frame.letGoGuard_related _ displaced)

theorem keepRoute_related (host : Host σ) (name : String) (route : Route) :
    Relates host (host.keepRoute name route) := by
  have bound : Relates host { host with routes := host.routes.bind name route } := frame.aside rfl
  unfold keepRoute
  cases host.routes.find? name with
  | none => exact bound
  | some displaced => exact frame.trans bound (frame.aside (unregister_substance _ displaced))

theorem keepDriver_related (host : Host σ) (name : String) (driver : Driver) :
    Relates host (host.keepDriver name driver) := by
  have bound : Relates host { host with drivers := host.drivers.bind name driver } :=
    frame.aside rfl
  unfold keepDriver
  cases host.drivers.find? name with
  | none => exact bound
  | some displaced => exact frame.trans bound (frame.dismiss_related _ displaced)

theorem dropGuard?_related {name : String} (dropped : host.dropGuard? name = some after) :
    Relates host after := by
  rcases Option.map_eq_some_iff.mp dropped with ⟨counter, _, rfl⟩
  have removed : Relates host { host with guards := host.guards.remove name } := frame.aside rfl
  exact frame.trans removed (frame.letGoGuard_related _ counter)

theorem dropCounter?_related {name : String} (dropped : host.dropCounter? name = some after) :
    Relates host after := by
  rcases Option.map_eq_some_iff.mp dropped with ⟨counter, _, rfl⟩
  have removed : Relates host { host with counters := host.counters.remove name } := frame.aside rfl
  exact frame.trans removed (frame.reap_related _ counter.session)

theorem dropDriver?_related {name : String} (dropped : host.dropDriver? name = some after) :
    Relates host after := by
  rcases Option.map_eq_some_iff.mp dropped with ⟨driver, _, rfl⟩
  have removed : Relates host { host with drivers := host.drivers.remove name } := frame.aside rfl
  exact frame.trans removed (frame.dismiss_related _ driver)

theorem dropRoute?_related {name : String} (dropped : host.dropRoute? name = some after) :
    Relates host after := by
  rcases Option.map_eq_some_iff.mp dropped with ⟨route, _, rfl⟩
  have removed : Relates host { host with routes := host.routes.remove name } := frame.aside rfl
  exact frame.trans removed (frame.aside (unregister_substance _ route))

theorem dropLease?_related {name : String} (dropped : host.dropLease? name = some after) :
    Relates host after := by
  rcases Option.map_eq_some_iff.mp dropped with ⟨session, _, rfl⟩
  have removed : Relates host { host with leases := host.leases.remove name } := frame.aside rfl
  exact frame.trans removed (frame.reap_related _ session)

theorem dropNamed_related (host : Host σ) (name : String) :
    Relates host (host.dropNamed name).2 := by
  unfold dropNamed
  cases found : host.dropGuard? name <|> host.dropCounter? name <|> host.dropDriver? name <|>
      host.dropRoute? name <|> host.dropLease? name with
  | none => exact frame.refl host
  | some next =>
      simp only [Option.orElse_eq_orElse, Option.orElse_eq_or, Option.or_eq_some_iff] at found
      rcases found with dropped | ⟨_, dropped | ⟨_, dropped | ⟨_, dropped | ⟨_, dropped⟩⟩⟩⟩
      · exact frame.dropGuard?_related dropped
      · exact frame.dropCounter?_related dropped
      · exact frame.dropDriver?_related dropped
      · exact frame.dropRoute?_related dropped
      · exact frame.dropLease?_related dropped

/-- The induction is on the things that are let go of. -/
theorem foldl_related {α : Type} {step : Host σ → α → Host σ}
    (steps : ∀ host entry, Relates host (step host entry)) (entries : List α) (host : Host σ) :
    Relates host (entries.foldl step host) := by
  induction entries generalizing host with
  | nil => exact frame.refl host
  | cons entry rest inductionHypothesis =>
      exact frame.trans (steps host entry) (inductionHypothesis (step host entry))

theorem dropEach_related (drop? : Host σ → String → Option (Host σ))
    (drops : ∀ {host after name}, drop? host name = some after → Relates host after)
    (names : List String) (host : Host σ) : Relates host (dropEach drop? names host) := by
  apply frame.foldl_related
  intro host name
  cases dropped : drop? host name with
  | none => exact frame.refl host
  | some after => exact drops dropped

theorem close_related (host : Host σ) : Relates host host.close := by
  have emptied (drop? : Host σ → String → Option (Host σ))
      (drops : ∀ {host after name}, drop? host name = some after → Relates host after)
      (names : Host σ → List String) {next : Host σ} (related : Relates host next) :
      Relates host (dropEach drop? (names next) next) :=
    frame.trans related (frame.dropEach_related drop? drops (names next) next)
  have unbound {next : Host σ} (related : Relates host next) :
      Relates host ((List.range next.bridges.length).foldl
        (fun host bridge => host.setCancelTarget bridge none) { next with opened := false }) :=
    have closed : Relates next { next with opened := false } := frame.aside rfl
    frame.trans (frame.trans related closed) (frame.foldl_related
      (fun host bridge => frame.setCancelTarget_related host bridge none)
      (List.range next.bridges.length) _)
  have guards :=
    emptied dropGuard? frame.dropGuard?_related (·.guards.map Prod.fst) (frame.refl host)
  have counters := emptied dropCounter? frame.dropCounter?_related (·.counters.map Prod.fst) guards
  have drivers := emptied dropDriver? frame.dropDriver?_related (·.drivers.map Prod.fst) counters
  have routes := emptied dropRoute? frame.dropRoute?_related (·.routes.map Prod.fst) drivers
  have leases := emptied dropLease? frame.dropLease?_related (·.leases.map Prod.fst) routes
  exact unbound leases

theorem release_related (host : Host σ) (raw : Int) : Relates host (host.release raw).2 := by
  cases looked : host.registry.lookup raw with
  | error error =>
      rw [release_of_refused looked]
      exact frame.refl host
  | ok id =>
      rcases release_of_found looked with ⟨records, released⟩
      have marked : Relates host ((host.marked id).say records) :=
        frame.trans (frame.marked host id) (frame.say_related _ records)
      rw [released]
      exact frame.trans marked (frame.reap_related _ id)

/-! ## Sessions and drivers -/

theorem callSession_related (id : SessionId) (request : Call) (host : Host σ) :
    Hosting.Leaves (callSession id request) host (Relates host) := by
  unfold callSession
  rw [Hosting.leaves_get_bind]
  cases host.registry.sessions[id]? with
  | none => exact frame.refl host
  | some session =>
      exact (Hosting.leaves_map _ _).mpr (frame.call_related session.handle request host)

theorem forward_related (raw : Int) (request : Call) (host : Host σ) :
    Hosting.Leaves (forward raw request) host (Relates host) := by
  unfold forward
  rw [Hosting.leaves_get_bind]
  cases host.registry.lookup raw with
  | error error => exact frame.refl host
  | ok id =>
      dsimp only
      split
      · apply frame.leaves_bind (frame.callSession_related id request host)
        intro answer next
        cases answer with
        | none => exact frame.refl next
        | some result => exact frame.refl next
      · exact frame.refl host

theorem wire_related (driver : Driver) (session : SessionId) (handle : Handle) (host : Host σ) :
    Hosting.Leaves (wire driver session handle) host (Relates host) := by
  have registered : Relates host (host.register (.at handle) driver.bridge).2 :=
    frame.aside rfl
  unfold wire
  rw [Hosting.leaves_modifyGet_bind]
  apply (frame.leaves_bind (frame.call_related handle _ _) ?_).mono fun _ => frame.trans registered
  intro _ wired
  exact frame.attach_related wired _ _ _ _

theorem start_related (driver : Driver) (bootstrap : Bootstrap) (host : Host σ) :
    Hosting.Leaves (start driver bootstrap) host (Relates host) := by
  unfold start
  split
  · exact frame.refl host
  dsimp only
  split
  · exact frame.refl host
  apply frame.leaves_bind (frame.created host)
  intro answer entered
  cases answer with
  | error error => exact frame.refl entered
  | ok id =>
      rw [Hosting.leaves_get_bind]
      cases entered.registry.sessions[id]? with
      | none => exact frame.refl entered
      | some session =>
          apply frame.leaves_bind (frame.wire_related driver id session.handle entered)
          intro active wired
          rw [Hosting.leaves_modify_bind]
          apply (frame.leaves_bind (frame.call_related session.handle _ _) ?_).mono
            fun _ => frame.trans (frame.say_related wired _)
          intro status executed
          exact frame.say_related executed _

theorem step_related (driver : Driver) (host : Host σ) :
    Hosting.Leaves (step driver) host (Relates host) := by
  unfold step
  cases driver.active with
  | none => exact frame.refl host
  | some active =>
      apply frame.leaves_bind (frame.readLine_related host _ _)
      intro line asked
      split
      · exact frame.refl asked
      · exact frame.leaves_bind (frame.callSession_related active.session _ asked)
          fun _ called => frame.refl called

/-- The induction is on the steps that may still be taken. -/
theorem run_related (steps : Nat) (driver : Driver) (host : Host σ) :
    Hosting.Leaves (run steps driver) host (Relates host) := by
  induction steps generalizing host with
  | zero =>
      unfold run
      rw [Hosting.leaves_get_bind]
      cases host.exitStatus? driver.bridge with
      | some status => exact frame.refl host
      | none => exact frame.refl host
  | succ steps inductionHypothesis =>
      unfold run
      rw [Hosting.leaves_get_bind]
      cases host.exitStatus? driver.bridge with
      | some status => exact frame.refl host
      | none =>
          apply frame.leaves_bind (frame.step_related driver host)
          intro answer next
          cases answer with
          | error error => exact frame.refl next
          | ok _ => exact inductionHypothesis next

theorem serve_related (steps : Nat) (bridge : BridgeId) (options : DriverOptions)
    (bootstrap : Bootstrap) (host : Host σ) :
    Hosting.Leaves (serve steps bridge options bootstrap) host (Relates host) := by
  have started : Hosting.Leaves (owningTable (start { bridge, options } bootstrap)) host
      (Relates host) :=
    leads_owningTable (frame.start_related { bridge, options } bootstrap host) fun _ related =>
      frame.trans related (frame.aside rfl)
  have ended (driver : Driver) (last : Host σ) : Relates last (last.dismiss driver).shutDown :=
    frame.trans (frame.dismiss_related last driver) (frame.aside rfl)
  apply frame.leaves_bind started
  rintro ⟨answer, driver⟩ next
  cases answer with
  | error error => exact ended driver next
  | ok id =>
      exact frame.leaves_bind (frame.run_related steps driver next)
        fun _ last => ended driver last

/-! ## Operations -/

/-- Every operation leaves a related state behind, wherever it stops. -/
theorem perform_related (operation : Operation) (host : Host σ) :
    Hosting.Leaves (perform operation) host (Relates host) := by
  have unchanged : Relates host host := frame.refl host
  cases operation with
  | acquire =>
      apply leaves_withTable unchanged
      apply frame.leaves_bind (frame.created host)
      intro answer next
      cases answer with
      | ok id => exact frame.refl next
      | error error => exact frame.refl next
  | lookup raw keepAs =>
      apply leaves_withTable unchanged
      rw [Hosting.leaves_get_bind]
      cases host.registry.lookup raw with
      | error error => exact unchanged
      | ok session =>
          cases keepAs with
          | none => exact unchanged
          | some name => exact frame.keepLease_related host name session
  | release raw =>
      apply leaves_withTable unchanged
      rw [Hosting.leaves_modifyGet_bind]
      cases (host.release raw).1 with
      | ok id => exact frame.release_related host raw
      | error error => exact frame.release_related host raw
  | incrementBreak raw =>
      have bumped : Served 0 host (host.incrementBreak raw).2 := incrementBreak_served host raw
      apply leaves_withTable unchanged
      rw [Hosting.leaves_modifyGet_bind]
      cases (host.incrementBreak raw).1 with
      | ok value => exact frame.served bumped
      | error error => exact frame.served bumped
  | forward raw call =>
      apply leaves_withTable unchanged
      apply frame.leaves_bind (frame.forward_related raw call host)
      intro answer next
      cases answer with
      | ok value => exact frame.refl next
      | error error => exact frame.refl next
  | through lease call =>
      apply leaves_withLease unchanged
      intro session _
      split
      · apply frame.leaves_bind (frame.callSession_related session call host)
        intro answer next
        cases answer with
        | none => exact frame.refl next
        | some value => exact frame.refl next
      · exact unchanged
  | shutDown =>
      apply leaves_withTable unchanged
      rw [Hosting.leaves_get_bind]
      split
      · exact unchanged
      · exact frame.aside rfl
  | dropTable =>
      apply leaves_withTable unchanged
      rw [Hosting.leaves_get_bind]
      split
      · exact unchanged
      · exact frame.aside rfl
  | dropBridge bridge =>
      unfold perform
      rw [Hosting.leaves_get_bind]
      split
      · exact unchanged
      · exact frame.setCancelTarget_related host bridge none
  | close => exact frame.close_related host
  | drop name => exact frame.dropNamed_related host name
  | resolve lease keepAs =>
      apply leaves_withLease unchanged
      intro session _
      rw [Hosting.leaves_get_bind]
      cases host.resolve session with
      | none => exact unchanged
      | some counter => exact frame.keepCounter_related host keepAs counter
  | cloneCounter name keepAs =>
      apply leaves_withCounter unchanged
      intro counter _
      exact frame.keepCounter_related host keepAs counter
  | cancel name times =>
      apply leaves_withCounter unchanged
      intro counter _
      have bumped : Served 0 host (bumpTimes times host counter.handle).2 :=
        bumpTimes_served times host counter.handle
      exact frame.served bumped
  | arm name keepAs =>
      apply leaves_withCounter unchanged
      intro counter _
      have armed : Relates host (host.arm counter) := frame.aside rfl
      exact frame.trans armed (frame.keepGuard_related _ keepAs counter)
  | deliver =>
      have delivered : Served 0 host host.deliver.2 := deliver_served host
      exact frame.served delivered
  | install => exact frame.aside rfl
  | uninstall => exact frame.aside rfl
  | raise =>
      have raised : Hosting.Leaves raise host (Served 0 host) := raise_served host
      exact frame.leaves_bind (frame.leaves_served raised) fun _ next => frame.refl next
  | display bridge code payload =>
      have displayed : Served 0 host (host.display bridge (.ofCode code) payload) :=
        display_served host bridge _ payload
      exact frame.served displayed
  | exit bridge status =>
      have exited : Hosting.Leaves (exitEvent bridge status) host (Served 0 host) :=
        exitEvent_served host bridge status
      exact frame.leaves_bind (frame.leaves_served exited) fun _ next => frame.refl next
  | readLine bridge prompt =>
      exact frame.leaves_bind (frame.readLine_related host bridge prompt)
        fun _ next => frame.refl next
  | setCancelTarget bridge name => exact frame.setCancelTarget_related host bridge _
  | register address bridge keepAs =>
      have registered : Relates host (host.register address bridge).2 := frame.aside rfl
      exact frame.trans registered (frame.keepRoute_related _ keepAs ⟨address, bridge⟩)
  | output address code argument =>
      have shown : Hosting.Leaves (outputCallback address code argument) host (Served 0 host) :=
        outputCallback_served host address code argument
      exact frame.leaves_bind (frame.leaves_served shown) fun _ next => frame.refl next
  | input address prompt =>
      have asked : Hosting.Leaves (inputCallback address prompt) host (Served 0 host) :=
        inputCallback_served host address prompt
      exact frame.leaves_bind (frame.leaves_served asked) fun _ next => frame.refl next
  | driver bridge options keepAs =>
      apply leaves_withTable unchanged
      exact frame.keepDriver_related host keepAs { bridge, options }
  | start name bootstrap =>
      apply leaves_withDriver unchanged
      intro driver _
      apply frame.leaves_bind (frame.start_related driver bootstrap host)
      rintro ⟨started, later⟩ next
      rw [Hosting.leaves_modify_bind]
      cases started with
      | ok id => exact frame.aside rfl
      | error error => exact frame.aside rfl
  | step name =>
      apply leaves_withDriver unchanged
      intro driver _
      apply frame.leaves_bind (frame.step_related driver host)
      intro answer next
      cases answer with
      | ok _ => exact frame.refl next
      | error error => exact frame.refl next
  | run name steps =>
      apply leaves_withDriver unchanged
      intro driver _
      apply frame.leaves_bind (frame.run_related steps driver host)
      intro answer next
      cases answer with
      | ok status => exact frame.refl next
      | error error => exact frame.refl next
  | serve bridge options bootstrap steps =>
      apply leaves_withTable unchanged
      rw [Hosting.leaves_get_bind]
      split
      · exact unchanged
      apply frame.leaves_bind (frame.serve_related steps bridge options bootstrap host)
      intro answer next
      cases answer with
      | ok status => exact frame.refl next
      | error error => exact frame.refl next

theorem afterAll_related (operations : List Operation) (host : Host σ) :
    Relates host (host.afterAll operations) :=
  afterAll_of_preserved (Relates host)
    (fun next operation related =>
      frame.trans related (after_of_leaves (frame.perform_related operation next)))
    (frame.refl host) operations

end Frame

end Host

end SessionHost
