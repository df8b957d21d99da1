import SessionHost.Proofs.Requests
import SessionHost.Proofs.Routing

namespace SessionHost

/-!
# Separation through the routing table

All instances of a process share one routing table.  Two things keep them apart.
What an event makes of the entry of an address depends on that entry alone, and an
event whose address is not its own leaves it as it is.  What a callback makes of a
bridge, and what it gives back, depends on that bridge alone, and it touches no bridge
that its address does not lead to.

So of a run of registrations, drops and callbacks the part that concerns some chosen
addresses goes as if the rest had not happened, provided that no bridge is registered
on both sides.  The proof runs the whole and the part side by side.
-/

namespace Bridge

/-- What a request for a line leaves behind on its own bridge, and its line. -/
def Turn.own (turn : Turn) : Bridge × Option Bytes :=
  (turn.bridge, turn.line)

namespace Waiting

/-- How a request comes out on its bridge does not depend on the break cell that it may
add to, nor on what was said before. -/
theorem await_own {waiting other : Waiting} (same : waiting.bridge = other.bridge)
    (attempts : Nat) : (waiting.await attempts).own = (other.await attempts).own := by
  induction attempts generalizing waiting other with
  | zero => exact congrArg (·, none) same
  | succ attempts inductionHypothesis =>
      have onward {waiting other : Waiting} (same : waiting.bridge = other.bridge) :
          (goOn attempts waiting.ended).own = (goOn attempts other.ended).own := by
        unfold ended
        simp only [same]
        cases other.bridge.interactive with
        | true =>
            apply inductionHypothesis
            rw [breakOff_bridge, breakOff_bridge, same]
        | false =>
            simp only [Bool.false_eq_true, if_false, goOn, shutDown, Turn.own, same]
      rw [await_succ, await_succ]
      unfold attempt
      simp only [same]
      cases other.bridge.source.readLine other.bridge.maxInput with
      | mk reading source =>
          cases reading with
          | line bytes => rfl
          | ended => exact onward rfl
          | failed cause => exact onward rfl

end Waiting

theorem nextLine_own (bridge : Bridge) (prompt : Bytes) (cell other : Option UInt8) :
    (bridge.nextLine prompt cell).own = (bridge.nextLine prompt other).own := by
  unfold nextLine
  cases bridge.exhausted with
  | true => rfl
  | false =>
      refine Waiting.await_own ?_ _
      rfl

/-- A bridge after an output event. -/
def afterOutput (bridge : Bridge) (code : Int32) (argument : OutputArgument) : Bridge :=
  match OutputKind.ofCode code with
  | .exit => (bridge.exit argument.status).1
  | kind => (bridge.display kind argument.payload).1

/-- What an input request on a bridge is answered with.  A bridge that is not there
gives an empty line. -/
def reply (bridge : Option Bridge) (prompt : Option Bytes) : Except Halt Bytes :=
  match bridge with
  | none => .ok (Bytes.terminated [])
  | some bridge =>
    match (bridge.nextLine (prompt.getD []) none).line with
    | none => .error .stuck
    | some line => .ok line.terminated

end Bridge

/-! ## What an event does -/

namespace RouteEvent

/-- The address that an event concerns. -/
def address : RouteEvent Route → Address
  | .register address _ => address
  | .drop route => route.address
  | .output address _ _ => address
  | .input address _ => address

/-- The route that an event gives. -/
def given : RouteEvent Route → List Route
  | .register address bridge => [⟨address, bridge⟩]
  | _ => []

/-- The routes that are alive after an event. -/
def alive (routes : List Route) : RouteEvent Route → List Route
  | .register address bridge => ⟨address, bridge⟩ :: routes
  | .drop route => routes.erase route
  | _ => routes

/-- Where an address leads after an event. -/
def redirect (event : RouteEvent Route) (address : Address) (before : Option BridgeId) :
    Option BridgeId :=
  match event with
  | .register place bridge => if address = place then some bridge else before
  | .drop route => if address = route.address ∧ before = some route.bridge then none else before
  | _ => before

/-- What an event makes of the bridge that its address leads to. -/
def touch (event : RouteEvent Route) (bridge : Bridge) : Bridge :=
  match event with
  | .output _ code argument => bridge.afterOutput code argument
  | .input _ prompt => (bridge.nextLine (prompt.getD []) none).bridge
  | _ => bridge

theorem redirect_elsewhere {event : RouteEvent Route} {address : Address}
    (elsewhere : event.address ≠ address) (before : Option BridgeId) :
    event.redirect address before = before := by
  cases event with
  | register place bridge => exact if_neg elsewhere.symm
  | drop route => exact if_neg fun both => elsewhere both.1.symm
  | output place code argument => rfl
  | input place prompt => rfl

/-- An address leads to a bridge only if it was just registered for it or led to it
before, and then no route of the two was dropped. -/
theorem of_redirect {event : RouteEvent Route} {address : Address} {before : Option BridgeId}
    {bridge : BridgeId} (leads : event.redirect address before = some bridge) :
    event = .register address bridge ∨ before = some bridge ∧ event ≠ .drop ⟨address, bridge⟩ := by
  cases event with
  | register place newer =>
      by_cases same : address = place
      · subst place
        refine .inl (congrArg (RouteEvent.register address) ?_)
        exact Option.some.inj ((if_pos rfl).symm.trans leads)
      · exact .inr ⟨(if_neg same).symm.trans leads, by simp⟩
  | drop route =>
      unfold redirect at leads
      dsimp only at leads
      split at leads
      · cases leads
      · next other =>
          refine .inr ⟨leads, ?_⟩
          rintro ⟨⟩
          exact other ⟨rfl, leads⟩
  | output place code argument => exact .inr ⟨leads, by simp⟩
  | input place prompt => exact .inr ⟨leads, by simp⟩

theorem mem_alive {event : RouteEvent Route} {route : Route} {routes : List Route}
    (listed : route ∈ routes) (kept : event ≠ .drop route) : route ∈ event.alive routes := by
  cases event with
  | register place bridge => exact List.mem_cons_of_mem _ listed
  | drop dropped =>
      have different : route ≠ dropped := fun same => kept (congrArg _ same.symm)
      exact (List.mem_erase_of_ne different).mpr listed
  | output place code argument => exact listed
  | input place prompt => exact listed

end RouteEvent

namespace Host

variable {σ : Type} {host : Host σ} {event : RouteEvent Route}

theorem bridgeAt?_afterRouting (host : Host σ) (event : RouteEvent Route) (address : Address) :
    (host.afterRouting event).bridgeAt? address = event.redirect address (host.bridgeAt? address) := by
  cases event with
  | register place bridge => exact bridgeAt?_register host place address bridge
  | drop route => exact bridgeAt?_unregister host route address
  | output place code argument =>
      exact bridgeAt?_of_routing (outputCallback_routing host place code argument) address
  | input place prompt =>
      exact bridgeAt?_of_routing (inputCallback_routing host place prompt) address

/-- A bridge that was put back is the one that was used, changed. -/
theorem bridges_setBridge {id : BridgeId} {bridge : Bridge} (found : host.bridges[id]? = some bridge)
    (change : Bridge → Bridge) :
    (host.setBridge id (change bridge)).bridges = host.bridges.modify id change := by
  have listed : id < host.bridges.length := (List.getElem?_eq_some_iff.mp found).1
  apply List.ext_getElem?
  intro other
  unfold setBridge
  dsimp only
  rw [List.getElem?_set, List.getElem?_modify]
  by_cases same : id = other
  · subst other
    rw [if_pos rfl, if_pos listed, found, Option.map_eq_map, Option.map_some, if_pos rfl]
  · simp [same]

theorem bridges_of_missing {id : BridgeId} (missing : host.bridges[id]? = none)
    (change : Bridge → Bridge) : host.bridges.modify id change = host.bridges :=
  List.modify_eq_self (List.getElem?_eq_none_iff.mp missing)

theorem bridges_display (host : Host σ) (id : BridgeId) (kind : OutputKind) (payload : Bytes) :
    (host.display id kind payload).bridges =
      host.bridges.modify id fun bridge => (bridge.display kind payload).1 := by
  unfold display
  cases found : host.bridges[id]? with
  | none => exact (bridges_of_missing found _).symm
  | some bridge => exact bridges_setBridge found fun bridge => (bridge.display kind payload).1

theorem bridges_exitEvent (host : Host σ) (id : BridgeId) (status : Int32) :
    Hosting.Leaves (exitEvent id status) host fun after =>
      after.bridges = host.bridges.modify id fun bridge => (bridge.exit status).1 := by
  rw [exitEvent_eq]
  rw [Hosting.leaves_get_bind]
  cases found : host.bridges[id]? with
  | none => exact (bridges_of_missing found _).symm
  | some bridge =>
      have changed := bridges_setBridge found fun bridge => (bridge.exit status).1
      dsimp only
      rw [Hosting.leaves_set_bind]
      split
      · exact changed
      · exact changed

theorem bridges_outputOn (host : Host σ) (id : BridgeId) (code : Int32) (argument : OutputArgument) :
    (leftBy (outputOn id code argument) host).bridges =
      host.bridges.modify id (·.afterOutput code argument) := by
  unfold outputOn Bridge.afterOutput
  cases OutputKind.ofCode code with
  | exit => exact leftBy_of_leaves (bridges_exitEvent host id argument.status)
  | formatted => exact bridges_display host id _ _
  | error => exact bridges_display host id _ _
  | log => exact bridges_display host id _ _
  | system => exact bridges_display host id _ _
  | file => exact bridges_display host id _ _
  | other code => exact bridges_display host id _ _

/-- What a request for a line does on a bridge that is there. -/
theorem readLine_of_found {id : BridgeId} {bridge : Bridge} (found : host.bridges[id]? = some bridge)
    (prompt : Bytes) : ∃ after,
      (readLine id prompt host = match (bridge.nextLine prompt none).line with
        | some line => .ok line after
        | none => .error .stuck after) ∧
      after.bridges = host.bridges.modify id fun bridge => (bridge.nextLine prompt none).bridge := by
  have own := bridge.nextLine_own prompt
    (bridge.cancel.bind fun counter => host.cell? counter.handle) none
  have changed := bridges_setBridge found fun bridge => (bridge.nextLine prompt none).bridge
  have settled (line : Option Bytes) (after : Host σ) :
      (match line with
        | some line => pure line
        | none => throw .stuck : Hosting σ Bytes) after = match line with
        | some line => .ok line after
        | none => .error .stuck after := by
    cases line with
    | none => rfl
    | some line => rfl
  unfold readLine
  rw [Hosting.get_bind, found]
  dsimp only
  rw [Hosting.set_bind]
  cases turn : bridge.nextLine prompt
      (bridge.cancel.bind fun counter => host.cell? counter.handle) with
  | mk after line cell log =>
      rw [turn] at own
      rcases Prod.mk.inj own with ⟨rfl, rfl⟩
      refine ⟨_, settled _ _, ?_⟩
      split
      · exact changed
      · exact changed

/-- What a computation gives back. -/
def givenBy {α : Type} (action : Hosting σ α) (host : Host σ) : Except Halt α :=
  match action host with
  | .ok value _ => .ok value
  | .error halt _ => .error halt

theorem inputOn_own (host : Host σ) (id : BridgeId) (prompt : Option Bytes) :
    (leftBy (inputOn id prompt) host).bridges =
        host.bridges.modify id (fun bridge => (bridge.nextLine (prompt.getD []) none).bridge) ∧
      givenBy (inputOn id prompt) host = Bridge.reply host.bridges[id]? prompt := by
  unfold leftBy givenBy inputOn
  simp only [bind, EStateM.bind]
  cases found : host.bridges[id]? with
  | none =>
      have read : readLine id (prompt.getD []) host = .ok [] host := by
        unfold readLine
        rw [Hosting.get_bind, found]
        rfl
      rw [read]
      exact ⟨(bridges_of_missing found _).symm, rfl⟩
  | some bridge =>
      rcases readLine_of_found found (prompt.getD []) with ⟨after, read, changed⟩
      rw [read, Bridge.reply]
      cases (bridge.nextLine (prompt.getD []) none).line with
      | none => exact ⟨changed, rfl⟩
      | some line => exact ⟨changed, rfl⟩

/-- What is left by a callback that comes out like something else. -/
theorem leftBy_congr {α : Type} {action other : Hosting σ α} (same : action host = other host) :
    leftBy action host = leftBy other host := by
  unfold leftBy
  rw [same]

theorem leftBy_of_ok {α : Type} {action : Hosting σ α} {value : α} {after : Host σ}
    (outcome : action host = .ok value after) : leftBy action host = after := by
  unfold leftBy
  rw [outcome]

/-- A callback changes no bridge but the one that its address leads to, and that one
according to its own state. -/
theorem bridges_afterRouting (host : Host σ) (event : RouteEvent Route) :
    (host.afterRouting event).bridges = match host.bridgeAt? event.address with
      | none => host.bridges
      | some id => host.bridges.modify id event.touch := by
  have untouched : host.bridges = match host.bridgeAt? event.address with
      | none => host.bridges
      | some reached => host.bridges.modify reached id := by
    cases host.bridgeAt? event.address with
    | none => rfl
    | some reached => exact (List.modify_id reached host.bridges).symm
  cases event with
  | register address bridge => exact untouched
  | drop route =>
      refine Eq.trans ?_ untouched
      change (host.unregister route).bridges = host.bridges
      unfold unregister
      split
      · rfl
      · rfl
  | output address code argument =>
      change (leftBy (outputCallback address code argument) host).bridges =
        match host.bridgeAt? address with
        | none => host.bridges
        | some id => host.bridges.modify id (·.afterOutput code argument)
      cases routed : host.bridgeAt? address with
      | none =>
          rcases (reachesNothing_of_unrouted routed).output code argument with ⟨records, outcome⟩
          rw [leftBy_of_ok outcome]
          rfl
      | some id =>
          rw [leftBy_congr ((reaches_of_routed routed).output code argument)]
          exact bridges_outputOn host id code argument
  | input address prompt =>
      change (leftBy (inputCallback address prompt) host).bridges =
        match host.bridgeAt? address with
        | none => host.bridges
        | some id => host.bridges.modify id fun bridge =>
          (bridge.nextLine (prompt.getD []) none).bridge
      cases routed : host.bridgeAt? address with
      | none =>
          rcases (reachesNothing_of_unrouted routed).input prompt with ⟨records, outcome⟩
          rw [leftBy_of_ok outcome]
          rfl
      | some id =>
          rw [leftBy_congr ((reaches_of_routed routed).input prompt)]
          exact (inputOn_own host id prompt).1

/-! ## Runs -/

/-- What an event gives back to the engine, with the address that asked for it. -/
def replyTo (host : Host σ) : RouteEvent Route → List (Address × Except Halt Bytes)
  | .input address prompt => [(address, givenBy (inputCallback address prompt) host)]
  | _ => []

/-- The state after a run.  A callback that ends the process, or that never comes back,
is the last event of any run that really takes place.  Here a run may go on from what
it left, so that what holds of all runs holds of the real ones too. -/
def afterRoutes (host : Host σ) (events : List (RouteEvent Route)) : Host σ :=
  events.foldl afterRouting host

/-- What a run gives back to the engine. -/
def replies (host : Host σ) : List (RouteEvent Route) → List (Address × Except Halt Bytes)
  | [] => []
  | event :: later => host.replyTo event ++ (host.afterRouting event).replies later

theorem replyTo_eq (host : Host σ) (event : RouteEvent Route) :
    host.replyTo event = match event with
      | .input address prompt => [(address, match host.bridgeAt? address with
        | none => .ok unroutedInput
        | some id => Bridge.reply host.bridges[id]? prompt)]
      | _ => [] := by
  cases event with
  | register address bridge => rfl
  | drop route => rfl
  | output address code argument => rfl
  | input address prompt =>
      refine congrArg (fun reply => [(address, reply)]) ?_
      cases routed : host.bridgeAt? address with
      | none =>
          rcases (reachesNothing_of_unrouted routed).input prompt with ⟨records, outcome⟩
          unfold givenBy
          rw [outcome]
      | some id =>
          refine Eq.trans ?_ (inputOn_own host id prompt).2
          unfold givenBy
          rw [(reaches_of_routed routed).input prompt]

theorem filter_replyTo (host : Host σ) (event : RouteEvent Route) (inside : Address → Bool) :
    (host.replyTo event).filter (inside ·.1) =
      if inside event.address then host.replyTo event else [] := by
  cases event with
  | register address bridge => exact (ite_self []).symm
  | drop route => exact (ite_self []).symm
  | output address code argument => exact (ite_self []).symm
  | input address prompt => exact List.filter_cons ..

/-! ## Two runs side by side -/

/-- No bridge has routes on both sides. -/
def Apart (inside : Address → Bool) (routes : List Route) : Prop :=
  ∀ one ∈ routes, ∀ other ∈ routes, one.bridge = other.bridge →
    inside one.address = inside other.address

/-- What the whole and the part have in common, where all routes of the whole run are
among the given ones. -/
structure Agrees (inside : Address → Bool) (routes : List Route) (whole part : Host σ) : Prop where
  table : ∀ address, inside address = true → whole.bridgeAt? address = part.bridgeAt? address
  bridges : ∀ route ∈ routes, inside route.address = true →
    whole.bridges[route.bridge]? = part.bridges[route.bridge]?
  known : ∀ address bridge, whole.bridgeAt? address = some bridge → ⟨address, bridge⟩ ∈ routes

namespace Agrees

variable {inside : Address → Bool} {routes : List Route} {whole part : Host σ}

theorem known_after (agrees : Agrees inside routes whole part) (given : event.given ⊆ routes)
    {address : Address} {bridge : BridgeId}
    (routed : (whole.afterRouting event).bridgeAt? address = some bridge) :
    ⟨address, bridge⟩ ∈ routes := by
  rw [bridgeAt?_afterRouting] at routed
  rcases RouteEvent.of_redirect routed with rfl | ⟨before, -⟩
  · exact given (List.mem_singleton_self _)
  · exact agrees.known address bridge before

/-- An event outside is noticed by nothing inside. -/
theorem aside (agrees : Agrees inside routes whole part) (apart : Apart inside routes)
    (given : event.given ⊆ routes) (outside : inside event.address = false) :
    Agrees inside routes (whole.afterRouting event) part where
  table := by
    intro address within
    have elsewhere : event.address ≠ address := by
      rintro rfl
      exact Bool.false_ne_true (outside.symm.trans within)
    rw [bridgeAt?_afterRouting, RouteEvent.redirect_elsewhere elsewhere]
    exact agrees.table address within
  bridges := by
    intro route listed within
    rw [bridges_afterRouting]
    cases routed : whole.bridgeAt? event.address with
    | none => exact agrees.bridges route listed within
    | some id =>
        have different : id ≠ route.bridge := by
          intro same
          have sides := apart _ (agrees.known event.address id routed) route listed same
          exact Bool.false_ne_true (outside.symm.trans (sides.trans within))
        dsimp only
        rw [List.getElem?_modify]
        simp only [if_neg different]
        exact (id_map _).trans (agrees.bridges route listed within)
  known _ _ := agrees.known_after given

/-- An event inside happens to both. -/
theorem along (agrees : Agrees inside routes whole part) (given : event.given ⊆ routes)
    (within : inside event.address = true) :
    Agrees inside routes (whole.afterRouting event) (part.afterRouting event) where
  table := by
    intro address here
    rw [bridgeAt?_afterRouting, bridgeAt?_afterRouting, agrees.table address here]
  bridges := by
    intro route listed here
    have same := agrees.bridges route listed here
    rw [bridges_afterRouting, bridges_afterRouting, agrees.table event.address within]
    cases part.bridgeAt? event.address with
    | none => exact same
    | some id =>
        dsimp only
        rw [List.getElem?_modify, List.getElem?_modify, same]
  known _ _ := agrees.known_after given

theorem replyTo (agrees : Agrees inside routes whole part) (within : inside event.address = true) :
    whole.replyTo event = part.replyTo event := by
  rw [replyTo_eq, replyTo_eq]
  cases event with
  | register address bridge => rfl
  | drop route => rfl
  | output address code argument => rfl
  | input address prompt =>
      have same := agrees.table address within
      dsimp only
      cases routed : whole.bridgeAt? address with
      | none => rw [← same, routed]
      | some id =>
          have known := agrees.known address id routed
          rw [← same, routed]
          dsimp only
          rw [agrees.bridges ⟨address, id⟩ known within]

/-- The whole run and the part of it that is inside go on to agree. -/
theorem run {events : List (RouteEvent Route)} (agrees : Agrees inside routes whole part)
    (apart : Apart inside routes) (given : events.flatMap RouteEvent.given ⊆ routes) :
    (whole.replies events).filter (inside ·.1) =
        part.replies (events.filter (inside ·.address)) ∧
      Agrees inside routes (whole.afterRoutes events)
        (part.afterRoutes (events.filter (inside ·.address))) := by
  induction events generalizing whole part with
  | nil => exact ⟨rfl, agrees⟩
  | cons event later inductionHypothesis =>
      rw [List.flatMap_cons, List.append_subset] at given
      rcases given with ⟨givenNow, givenLater⟩
      have step (host : Host σ) (later : List (RouteEvent Route)) :
          host.replies (event :: later) =
            host.replyTo event ++ (host.afterRouting event).replies later := rfl
      rw [step, List.filter_append, filter_replyTo, List.filter_cons]
      cases side : inside event.address with
      | false => exact inductionHypothesis (agrees.aside apart givenNow side) givenLater
      | true =>
          rcases inductionHypothesis (agrees.along givenNow side) givenLater with
            ⟨replies, onward⟩
          refine ⟨?_, onward⟩
          rw [if_pos rfl, if_pos rfl, step, agrees.replyTo side, replies]

end Agrees

/-- The events outside matter to nothing inside: neither to what is given back to the
engine nor to what becomes of the bridges. -/
structure Separate (host : Host σ) (inside : Address → Bool) (events : List (RouteEvent Route)) :
    Prop where
  replies : (host.replies events).filter (inside ·.1) =
    host.replies (events.filter (inside ·.address))
  bridges : ∀ route ∈ host.routing ++ events.flatMap RouteEvent.given,
    inside route.address = true →
      (host.afterRoutes events).bridges[route.bridge]? =
        (host.afterRoutes (events.filter (inside ·.address))).bridges[route.bridge]?

/-- An address leads to a bridge only while a route of the two is alive. -/
theorem alive_of_routed {routes : List Route}
    (backed : ∀ address bridge, host.bridgeAt? address = some bridge → ⟨address, bridge⟩ ∈ routes)
    (events : List (RouteEvent Route)) {address : Address} {bridge : BridgeId}
    (routed : (host.afterRoutes events).bridgeAt? address = some bridge) :
    ⟨address, bridge⟩ ∈ events.foldl RouteEvent.alive routes := by
  induction events generalizing host routes with
  | nil => exact backed address bridge routed
  | cons event later inductionHypothesis =>
      refine inductionHypothesis ?_ routed
      intro address bridge routed
      rw [bridgeAt?_afterRouting] at routed
      rcases RouteEvent.of_redirect routed with rfl | ⟨before, kept⟩
      · exact List.mem_cons_self ..
      · exact RouteEvent.mem_alive (backed address bridge before) kept

/-- Sessions do not interfere through the routing table.  Wherever the registrations
keep the bridges of some addresses apart from those of all others, the two sides go
their ways as if alone.  An address leads to a bridge only while a route of the two is
alive, and otherwise callbacks on it reach nothing. -/
theorem routing_separates (host : Host σ) (events : List (RouteEvent Route)) :
    (∀ inside, Apart inside (host.routing ++ events.flatMap RouteEvent.given) →
      host.Separate inside events) ∧
    ∀ address, match (host.afterRoutes events).bridgeAt? address with
      | some bridge => ⟨address, bridge⟩ ∈ events.foldl RouteEvent.alive host.routing
      | none => (host.afterRoutes events).ReachesNothing address := by
  refine ⟨?_, ?_⟩
  · intro inside apart
    have agrees : Agrees inside (host.routing ++ events.flatMap RouteEvent.given) host host :=
      ⟨fun _ _ => rfl, fun _ _ _ => rfl, fun _ _ routed =>
        List.mem_append_left _ (mem_routing_of_bridgeAt? routed)⟩
    rcases agrees.run apart (List.subset_append_right ..) with ⟨replies, onward⟩
    exact ⟨replies, onward.bridges⟩
  · intro address
    split
    · next bridge routed => exact alive_of_routed (fun _ _ => mem_routing_of_bridgeAt?) events routed
    · next unrouted => exact reachesNothing_of_unrouted unrouted

/-- Two sessions with a console each.  The one is given the same line whether or not the
other writes, reads and is dropped. -/
theorem routing_separates_two_sessions :
    ∃ first : Host Recording.Recorder,
      Host.init {} Memory.machine {}
          [Bridge.onStreams { script := [.chunk [104, 10]] } {} false {} .ignore,
            Bridge.onStreams { script := [.chunk [105, 10]] } {} false {} .ignore] = .ok first ∧
        first.Separate (· == .at 0)
          [.register (.at 0) 0, .register (.at 1) 1, .output (.at 1) 1 (.text [98]),
            .input (.at 1) none, .input (.at 0) none, .drop ⟨.at 1, 1⟩, .input (.at 1) none] ∧
        first.replies [.register (.at 0) 0, .input (.at 0) none] = [(.at 0, .ok [104])] := by
  refine ⟨_, rfl, (routing_separates _ _).1 _ ?_, by rfl⟩
  unfold Apart
  decide

end Host

end SessionHost
