import SessionHost.Proofs.ReadFaults
import SessionHost.Proofs.Twins

namespace SessionHost

/-!
# Twins in step

Nothing that a host does looks at its journal or at its log, and it looks at its storage
only to have enough of it.  So whatever two twins are asked to do, they come back with the
same, they add the same to their journals, and they are twins afterwards.
-/

namespace Host

variable {σ : Type} {past other : List Entry} {host twin : Host σ}

namespace Twins

variable (twins : Twins past other host twin)

include twins

/-! ## Events on a bridge -/

theorem exitEvent (id : BridgeId) (status : Int32) :
    Hosting.Alike (Twins past other) (exitEvent id status host) (exitEvent id status twin) := by
  rw [Host.exitEvent_eq, Hosting.alike_get_bind, twins.bridges]
  cases host.bridges[id]? with
  | none => exact ⟨rfl, twins⟩
  | some bridge =>
      have met := (twins.setBridge id (bridge.exit status).1).say (bridge.exit status).2
        (bridge.exit status).2
      dsimp only
      rw [Hosting.alike_set_bind]
      split
      · exact ⟨rfl, met⟩
      · exact ⟨rfl, met⟩

theorem afterTurn (id : BridgeId) (cancel : Option Counter) (turn : Bridge.Turn) :
    Twins past other (host.afterTurn id cancel turn) (twin.afterTurn id cancel turn) := by
  have put := (twins.setBridge id turn.bridge).say turn.log turn.log
  unfold Host.afterTurn
  split
  · exact put.setCell _ _
  · exact put

theorem readLine (id : BridgeId) (prompt : Bytes) :
    Hosting.Alike (Twins past other) (readLine id prompt host) (readLine id prompt twin) := by
  cases found : host.bridges[id]? with
  | none =>
      rw [Host.readLine, Hosting.alike_get_bind, twins.bridges, found]
      exact ⟨rfl, twins⟩
  | some bridge =>
      have foundTwin : twin.bridges[id]? = some bridge := by
        rw [twins.bridges]
        exact found
      have turned := twins.afterTurn id bridge.cancel (bridge.nextLine prompt
        (bridge.cancel.bind fun counter => host.cell? counter.handle))
      have same : (bridge.cancel.bind fun counter => twin.cell? counter.handle) =
          bridge.cancel.bind fun counter => host.cell? counter.handle := by
        simp only [twins.cell?]
      rw [readLine_eq_afterTurn found rfl, readLine_eq_afterTurn foundTwin rfl, same]
      cases (bridge.nextLine prompt
          (bridge.cancel.bind fun counter => host.cell? counter.handle)).line with
      | none => exact ⟨rfl, turned⟩
      | some line => exact ⟨rfl, turned⟩

/-! ## What an engine reaches -/

theorem outputCallback (address : Address) (code : Int32) (argument : OutputArgument) :
    Hosting.Alike (Twins past other) (outputCallback address code argument host)
      (outputCallback address code argument twin) := by
  rw [Host.outputCallback, Hosting.alike_get_bind, twins.bridgeAt?]
  cases host.bridgeAt? address with
  | none => exact ⟨rfl, twins.say _ _⟩
  | some bridge =>
      dsimp only
      cases OutputKind.ofCode code with
      | exit => exact twins.exitEvent bridge argument.status
      | _ => exact ⟨rfl, twins.display bridge _ argument.payload⟩

theorem inputCallback (address : Address) (prompt : Option Bytes) :
    Hosting.Alike (Twins past other) (inputCallback address prompt host)
      (inputCallback address prompt twin) := by
  rw [Host.inputCallback, Hosting.alike_get_bind, twins.bridgeAt?]
  cases host.bridgeAt? address with
  | none => exact ⟨rfl, twins.say _ _⟩
  | some bridge =>
      exact (twins.readLine bridge _).bind fun line _ _ twins => ⟨rfl, twins⟩

theorem raise : Hosting.Alike (Twins past other) (raise host) (raise twin) := by
  rw [Host.raise, Hosting.alike_get_bind, twins.handler, twins.undisposed]
  split
  · exact ⟨rfl, twins.deliver.2⟩
  · cases host.undisposed with
    | withheld => exact ⟨rfl, twins⟩
    | fatal => exact ⟨rfl, twins⟩

end Twins

/-- The induction is on the conversation: twins serve every request alike. -/
theorem converse_twins {α : Type} (handle : Handle) (conversation : Conversation α)
    {host twin : Host σ} (twins : Twins past other host twin) :
    Hosting.Alike (Twins past other) (converse handle conversation host)
      (converse handle conversation twin) := by
  induction conversation generalizing host twin with
  | finished result => exact ⟨rfl, twins⟩
  | output code argument next inductionHypothesis =>
      exact (twins.outputCallback (.at handle) code argument).bind
        fun _ _ _ => inductionHypothesis
  | input prompt next inductionHypothesis =>
      exact (twins.inputCallback (.at handle) prompt).bind
        fun line _ _ => inductionHypothesis line
  | readCell next inductionHypothesis =>
      rw [converse, Hosting.alike_get_bind, twins.cell?]
      exact inductionHypothesis (host.cell? handle) twins
  | writeCell value next inductionHypothesis =>
      exact inductionHypothesis (twins.setCell handle value)
  | signal next inductionHypothesis =>
      exact twins.raise.bind fun handled _ _ => inductionHypothesis handled
  | note entry next inductionHypothesis =>
      exact inductionHypothesis (twins.enter (.noted handle entry))

variable [Engine σ]

namespace Twins

theorem call (twins : Twins past other host twin) (handle : Handle) (request : Call) :
    Hosting.Alike (Twins past other) (call handle request host) (call handle request twin) := by
  have entered := twins.enter (.called handle request)
  rw [Host.call, Hosting.alike_modify_bind, Hosting.alike_get_bind,
    entered.engine]
  exact (converse_twins handle _ entered).bind
    fun answer _ _ twins => ⟨rfl, twins.withEngine answer.2⟩

variable (twins : Twins past other host twin)

include twins

theorem callSession (id : SessionId) (request : Call) :
    Hosting.Alike (Twins past other) (callSession id request host)
      (callSession id request twin) := by
  rw [Host.callSession, Hosting.alike_get_bind, twins.sessions]
  cases host.registry.sessions[id]? with
  | none => exact ⟨rfl, twins⟩
  | some session =>
      exact (twins.call session.handle request).bind fun _ _ _ twins => ⟨rfl, twins⟩

theorem forward (raw : Int) (request : Call) :
    Hosting.Alike (Twins past other) (forward raw request host) (forward raw request twin) := by
  rw [Host.forward, Hosting.alike_get_bind, twins.lookup]
  cases host.registry.lookup raw with
  | error error => exact ⟨rfl, twins⟩
  | ok id =>
      dsimp only
      split
      · apply (twins.callSession id request).bind
        intro answer _ _ twins
        cases answer with
        | none => exact ⟨rfl, twins⟩
        | some result => exact ⟨rfl, twins⟩
      · exact ⟨rfl, twins⟩

/-! ## Sessions -/

omit [Engine σ] in
/-- Twins that have the same storage, and room in it, take in the same instance. -/
theorem enterSession {handle handleTwin : Handle} (same : handleTwin = handle)
    (storage : twin.registry = host.registry) (room : (host.registry.enter handle).Roomy) :
    (host.enterSession handle).1 = (twin.enterSession handleTwin).1 ∧
      Twins past other (host.enterSession handle).2 (twin.enterSession handleTwin).2 := by
  subst same
  rw [Host.enterSession, Host.enterSession, storage]
  have entered : Twins past other { host with registry := host.registry.enter handleTwin }
      { twin with registry := host.registry.enter handleTwin } :=
    { twins with contents := rfl, roomy := room, roomyTwin := room }
  exact ⟨rfl, (entered.enter _).say _ _⟩

omit [Engine σ] in
theorem takeCreation (creation : Creation) (storage : twin.registry = host.registry)
    (room : ∀ handle, (host.registry.enter handle).Roomy) :
    Hosting.Alike (Twins past other) (takeCreation creation host)
      (takeCreation creation twin) := by
  cases creation with
  | fresh cell =>
      have made : Twins past other { host with cells := host.cells.push cell }
          { twin with cells := twin.cells.push cell } :=
        { twins with cells := congrArg (·.push cell) twins.cells }
      have entered := made.enterSession (congrArg Array.size twins.cells) storage (room _)
      exact ⟨congrArg Except.ok entered.1, entered.2⟩
  | again handle =>
      have entered := twins.enterSession rfl storage (room handle)
      exact ⟨congrArg Except.ok entered.1, entered.2⟩
  | nothing => exact ⟨rfl, twins.enter (.created none)⟩
  | unwound => exact ⟨rfl, twins.abandon true⟩

/-- The tables of twins give the same answer, and the factory is asked the same. -/
theorem acquire : Hosting.Alike (Twins past other) (acquire host) (acquire twin) := by
  rcases Registry.prepare_of_contents twins.roomy twins.roomyTwin twins.contents with
    ⟨answer, contents, storage⟩
  have prepared : Twins past other { host with registry := host.registry.prepare.2 }
      { twin with registry := twin.registry.prepare.2 } :=
    { twins with
      contents
      roomy := Registry.roomy_prepare twins.roomy
      roomyTwin := Registry.roomy_prepare twins.roomyTwin }
  cases ready : host.registry.prepare.1 with
  | error error =>
      rcases acquire_of_refused ready with ⟨records, outcome⟩
      rcases acquire_of_refused (answer.trans ready) with ⟨recordsTwin, outcomeTwin⟩
      rw [outcome, outcomeTwin]
      exact ⟨rfl, prepared.say _ _⟩
  | ok done =>
      rcases acquire_of_ready ready with ⟨records, outcome⟩
      rcases acquire_of_ready (answer.trans ready) with ⟨recordsTwin, outcomeTwin⟩
      rcases Registry.prepare_of_ready twins.roomy ready with ⟨extended, reserved⟩
      rw [outcome, outcomeTwin, twins.engine, congrArg Array.size twins.cells]
      apply ((prepared.withEngine _).say records recordsTwin).takeCreation
      · exact storage ready
      · intro handle
        exact extended ▸ Registry.roomy_enter twins.roomy reserved handle

end Twins

/-! ## Drivers -/

theorem wire_twins (driver : Driver) (session : SessionId) (handle : Handle)
    (twins : Twins past other host twin) :
    Hosting.Alike (Twins past other) (wire driver session handle host)
      (wire driver session handle twin) := by
  have registered := twins.register (.at handle) driver.bridge
  rw [wire, Hosting.alike_modifyGet_bind]
  apply (registered.call handle (.setCallbacks .console)).bind
  intro _ host twin twins
  rw [Hosting.alike_get_bind, twins.resolve, Hosting.alike_set_bind]
  exact ⟨rfl, twins.attach _ _ _ _⟩

theorem start_twins (driver : Driver) (bootstrap : Bootstrap)
    (twins : Twins past other host twin) :
    Hosting.Alike (Twins past other) (start driver bootstrap host)
      (start driver bootstrap twin) := by
  rw [start]
  split
  · exact ⟨rfl, twins⟩
  dsimp only
  split
  · exact ⟨rfl, twins⟩
  apply twins.acquire.bind
  intro answer host twin twins
  cases answer with
  | error error => exact ⟨rfl, twins⟩
  | ok id =>
      dsimp only
      rw [Hosting.alike_get_bind, twins.sessions]
      cases host.registry.sessions[id]? with
      | none => exact ⟨rfl, twins⟩
      | some session =>
          apply (wire_twins driver id session.handle twins).bind
          intro active host twin twins
          rw [Hosting.alike_modify_bind]
          apply ((twins.say _ _).call session.handle (.execute _)).bind
          exact fun status _ _ twins => ⟨rfl, twins.say _ _⟩

theorem step_twins (driver : Driver) (twins : Twins past other host twin) :
    Hosting.Alike (Twins past other) (step driver host) (step driver twin) := by
  rw [step]
  cases driver.active with
  | none => exact ⟨rfl, twins⟩
  | some active =>
      apply (twins.readLine driver.bridge driver.options.prompt).bind
      intro line host twin twins
      split
      · exact ⟨rfl, twins⟩
      · exact (twins.callSession active.session (.execute line)).bind
          fun _ _ _ twins => ⟨rfl, twins⟩

/-- The induction is on the steps that may still be taken. -/
theorem run_twins (steps : Nat) (driver : Driver) (twins : Twins past other host twin) :
    Hosting.Alike (Twins past other) (run steps driver host) (run steps driver twin) := by
  induction steps generalizing host twin with
  | zero =>
      rw [run, Hosting.alike_get_bind, twins.exitStatus?]
      cases host.exitStatus? driver.bridge with
      | some status => exact ⟨rfl, twins⟩
      | none => exact ⟨rfl, twins⟩
  | succ steps inductionHypothesis =>
      rw [run, Hosting.alike_get_bind, twins.exitStatus?]
      cases host.exitStatus? driver.bridge with
      | some status => exact ⟨rfl, twins⟩
      | none =>
          apply (step_twins driver twins).bind
          intro answer host twin twins
          cases answer with
          | error error => exact ⟨rfl, twins⟩
          | ok _ => exact inductionHypothesis twins

theorem serve_twins (steps : Nat) (bridge : BridgeId) (options : DriverOptions)
    (bootstrap : Bootstrap) (twins : Twins past other host twin) :
    Hosting.Alike (Twins past other) (serve steps bridge options bootstrap host)
      (serve steps bridge options bootstrap twin) := by
  have started : Hosting.Alike (Twins past other)
      (owningTable (start { bridge, options } bootstrap) host)
      (owningTable (start { bridge, options } bootstrap) twin) := by
    rw [owningTable, owningTable]
    rcases (start_twins { bridge, options } bootstrap twins).cases with
      ⟨value, after, afterTwin, outcome, outcomeTwin, begun⟩ |
        ⟨halt, after, afterTwin, outcome, outcomeTwin, begun⟩
    · rw [outcome, outcomeTwin]
      exact ⟨rfl, begun⟩
    · rw [outcome, outcomeTwin]
      cases halt with
      | unwound => exact ⟨rfl, begun.closed⟩
      | _ => exact ⟨rfl, begun⟩
  rw [serve]
  apply started.bind
  rintro ⟨answer, driver⟩ host twin twins
  cases answer with
  | error error => exact ⟨rfl, (twins.dismiss driver).shutDown⟩
  | ok id =>
      apply (run_twins steps driver twins).bind
      exact fun _ _ _ twins => ⟨rfl, (twins.dismiss driver).shutDown⟩

/-! ## Operations -/

section Clients

variable (twins : Twins past other host twin)

include twins

omit [Engine σ] in
theorem withTable_twins {action : Hosting σ Answer}
    (acts : Hosting.Alike (Twins past other) (action host) (action twin)) :
    Hosting.Alike (Twins past other) (withTable action host) (withTable action twin) := by
  rw [withTable, Hosting.alike_get_bind, twins.opened]
  split
  · exact acts
  · exact ⟨rfl, twins⟩

omit [Engine σ] in
theorem withCounter_twins (name : String) {action : Counter → Hosting σ Answer}
    (acts : ∀ counter,
      Hosting.Alike (Twins past other) (action counter host) (action counter twin)) :
    Hosting.Alike (Twins past other) (withCounter name action host)
      (withCounter name action twin) := by
  rw [withCounter, Hosting.alike_get_bind, twins.counters]
  cases host.counters.find? name with
  | none => exact ⟨rfl, twins⟩
  | some counter => exact acts counter

omit [Engine σ] in
theorem withDriver_twins (name : String) {action : Driver → Hosting σ Answer}
    (acts : ∀ driver,
      Hosting.Alike (Twins past other) (action driver host) (action driver twin)) :
    Hosting.Alike (Twins past other) (withDriver name action host)
      (withDriver name action twin) := by
  rw [withDriver, Hosting.alike_get_bind, twins.drivers]
  cases host.drivers.find? name with
  | none => exact ⟨rfl, twins⟩
  | some driver => exact acts driver

omit [Engine σ] in
theorem withLease_twins (name : String) {action : SessionId → Hosting σ Answer}
    (acts : ∀ session,
      Hosting.Alike (Twins past other) (action session host) (action session twin)) :
    Hosting.Alike (Twins past other) (withLease name action host)
      (withLease name action twin) := by
  rw [withLease, Hosting.alike_get_bind, twins.leases]
  cases host.leases.find? name with
  | none => exact ⟨rfl, twins⟩
  | some session => exact acts session

end Clients

omit [Engine σ] in
/-- An answer is made of what a change of the state gives back. -/
theorem modifyGet_twins {α : Type} {change : Host σ → α × Host σ} {next : α → Hosting σ Answer}
    (changed : (change twin).1 = (change host).1 ∧
      Twins past other (change host).2 (change twin).2)
    (onward : ∀ value host twin, Twins past other host twin →
      Hosting.Alike (Twins past other) (next value host) (next value twin)) :
    Hosting.Alike (Twins past other) ((modifyGet change >>= next) host)
      ((modifyGet change >>= next) twin) := by
  rw [Hosting.alike_modifyGet_bind, changed.1]
  exact onward _ _ _ changed.2

/-- Twins that perform the same operation come back with the same, and are twins
afterwards. -/
theorem perform_twins (operation : Operation) (twins : Twins past other host twin) :
    Hosting.Alike (Twins past other) (perform operation host) (perform operation twin) := by
  cases operation with
  | acquire =>
      apply withTable_twins twins
      apply twins.acquire.bind
      intro answer _ _ twins
      cases answer with
      | ok id => exact ⟨rfl, twins⟩
      | error error => exact ⟨rfl, twins⟩
  | lookup raw keepAs =>
      apply withTable_twins twins
      rw [Hosting.alike_get_bind, twins.lookup]
      cases host.registry.lookup raw with
      | error error => exact ⟨rfl, twins⟩
      | ok session =>
          cases keepAs with
          | none => exact ⟨rfl, twins⟩
          | some name => exact ⟨rfl, twins.keepLease name session⟩
  | release raw =>
      apply withTable_twins twins
      apply modifyGet_twins (twins.release raw)
      intro answer _ _ twins
      cases answer with
      | ok id => exact ⟨rfl, twins⟩
      | error error => exact ⟨rfl, twins⟩
  | incrementBreak raw =>
      apply withTable_twins twins
      apply modifyGet_twins (twins.incrementBreak raw)
      intro answer _ _ twins
      cases answer with
      | ok value => exact ⟨rfl, twins⟩
      | error error => exact ⟨rfl, twins⟩
  | forward raw call =>
      apply withTable_twins twins
      apply (twins.forward raw call).bind
      intro answer _ _ twins
      cases answer with
      | ok value => exact ⟨rfl, twins⟩
      | error error => exact ⟨rfl, twins⟩
  | through lease call =>
      apply withLease_twins twins
      intro session
      split
      · apply (twins.callSession session call).bind
        intro answer _ _ twins
        cases answer with
        | none => exact ⟨rfl, twins⟩
        | some value => exact ⟨rfl, twins⟩
      · exact ⟨rfl, twins⟩
  | shutDown =>
      apply withTable_twins twins
      rw [Hosting.alike_get_bind, twins.isShared]
      split
      · exact ⟨rfl, twins⟩
      · exact ⟨rfl, twins.shutDown⟩
  | dropTable =>
      apply withTable_twins twins
      rw [Hosting.alike_get_bind, twins.isShared]
      split
      · exact ⟨rfl, twins⟩
      · exact ⟨rfl, twins.closed⟩
  | dropBridge bridge =>
      rw [perform, Hosting.alike_get_bind, twins.isBridgeShared]
      split
      · exact ⟨rfl, twins⟩
      · exact ⟨rfl, twins.setCancelTarget bridge none⟩
  | close => exact ⟨rfl, twins.close⟩
  | drop name =>
      exact modifyGet_twins (twins.dropNamed name) fun _ _ _ twins => ⟨rfl, twins⟩
  | resolve lease keepAs =>
      apply withLease_twins twins
      intro session
      rw [Hosting.alike_get_bind, twins.resolve]
      cases host.resolve session with
      | none => exact ⟨rfl, twins⟩
      | some counter =>
          exact ⟨congrArg Answer.cell (twins.cell? counter.handle).symm,
            twins.keepCounter keepAs counter⟩
  | cloneCounter name keepAs =>
      apply withCounter_twins twins
      exact fun counter => ⟨rfl, twins.keepCounter keepAs counter⟩
  | cancel name times =>
      apply withCounter_twins twins
      intro counter
      exact modifyGet_twins (twins.bumpTimes times counter.handle)
        fun _ _ _ twins => ⟨rfl, twins⟩
  | arm name keepAs =>
      apply withCounter_twins twins
      exact fun counter => ⟨rfl, (twins.arm counter).keepGuard keepAs counter⟩
  | deliver => exact modifyGet_twins twins.deliver fun _ _ _ twins => ⟨rfl, twins⟩
  | install => exact ⟨rfl, twins.install⟩
  | uninstall => exact ⟨rfl, twins.uninstall⟩
  | raise => exact twins.raise.bind fun _ _ _ twins => ⟨rfl, twins⟩
  | display bridge code payload => exact ⟨rfl, twins.display bridge _ payload⟩
  | exit bridge status =>
      exact (twins.exitEvent bridge status).bind fun _ _ _ twins => ⟨rfl, twins⟩
  | readLine bridge prompt =>
      exact (twins.readLine bridge prompt).bind fun _ _ _ twins => ⟨rfl, twins⟩
  | setCancelTarget bridge name =>
      rw [perform, Hosting.alike_get_bind, twins.counters]
      exact ⟨rfl, twins.setCancelTarget bridge _⟩
  | register address bridge keepAs =>
      exact ⟨rfl, (twins.register address bridge).keepRoute keepAs ⟨address, bridge⟩⟩
  | output address code argument =>
      exact (twins.outputCallback address code argument).bind fun _ _ _ twins => ⟨rfl, twins⟩
  | input address prompt =>
      exact (twins.inputCallback address prompt).bind fun _ _ _ twins => ⟨rfl, twins⟩
  | driver bridge options keepAs =>
      apply withTable_twins twins
      exact ⟨rfl, twins.keepDriver keepAs { bridge, options }⟩
  | start name bootstrap =>
      apply withDriver_twins twins
      intro driver
      apply (start_twins driver bootstrap twins).bind
      rintro ⟨started, later⟩ _ _ twins
      cases started with
      | ok id => exact ⟨rfl, twins.replaceDriver name later⟩
      | error error => exact ⟨rfl, twins.replaceDriver name later⟩
  | step name =>
      apply withDriver_twins twins
      intro driver
      apply (step_twins driver twins).bind
      intro answer _ _ twins
      cases answer with
      | ok _ => exact ⟨rfl, twins⟩
      | error error => exact ⟨rfl, twins⟩
  | run name steps =>
      apply withDriver_twins twins
      intro driver
      apply (run_twins steps driver twins).bind
      intro answer _ _ twins
      cases answer with
      | ok status => exact ⟨rfl, twins⟩
      | error error => exact ⟨rfl, twins⟩
  | serve bridge options bootstrap steps =>
      apply withTable_twins twins
      rw [Hosting.alike_get_bind, twins.isShared]
      split
      · exact ⟨rfl, twins⟩
      apply (serve_twins steps bridge options bootstrap twins).bind
      intro answer _ _ twins
      cases answer with
      | ok status => exact ⟨rfl, twins⟩
      | error error => exact ⟨rfl, twins⟩

theorem after_twins (operation : Operation) (twins : Twins past other host twin) :
    twin.outcome operation = host.outcome operation ∧
      Twins past other (host.after operation) (twin.after operation) := by
  rw [Host.outcome, Host.outcome, Host.after, Host.after]
  rcases (perform_twins operation twins).cases with
    ⟨answer, next, nextTwin, outcome, outcomeTwin, behind⟩ |
      ⟨halt, next, nextTwin, outcome, outcomeTwin, behind⟩
  · rw [outcome, outcomeTwin]
    exact ⟨rfl, behind⟩
  · rw [outcome, outcomeTwin]
    exact ⟨rfl, behind⟩

/-- Twins are twins after every run. -/
theorem afterAll_twins (operations : List Operation) (twins : Twins past other host twin) :
    Twins past other (host.afterAll operations) (twin.afterAll operations) :=
  foldl_twins (fun operation twins => (after_twins operation twins).2) rfl twins

end Host

end SessionHost
