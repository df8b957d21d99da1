import SessionHost.Engine.Recording
import SessionHost.Proofs.Service

namespace SessionHost

/-!
# The routing table

The routing table says which bridge takes the callbacks of an address.  To register
a bridge for an address puts it there in the place of any other, and gives a route.
To drop a route takes the entry of its address away if it leads to the route's
bridge, and that is all that is looked at.  A callback on an address reaches the
bridge that the table has for it, and nothing is reached where it has none.

A route is no more than its address and its bridge, so two routes of one address and
one bridge cannot be told apart by what becomes of the table when they are dropped.
-/

/-- What happens around the routing table.  A route that is dropped is given by
itself or by something that stands for it. -/
inductive RouteEvent (ρ : Type) where
  | register (address : Address) (bridge : BridgeId)
  | drop (route : ρ)
  | output (address : Address) (code : Int32) (argument : OutputArgument)
  | input (address : Address) (prompt : Option Bytes)
deriving DecidableEq, Repr

namespace Host

variable {σ : Type} {host : Host σ}

/-! ## The table -/

/-- A table without the entry of one address. -/
theorem find?_without (routing : List Route) (address other : Address) :
    (routing.filter fun route : Route => route.address != address).find?
        (fun route => route.address = other) =
      if other = address then none else routing.find? fun route => route.address = other := by
  rw [List.find?_filter]
  split
  · next same =>
      subst other
      apply List.find?_eq_none.mpr
      simp
  · next different =>
      refine congrArg (List.find? · routing) (funext fun route => ?_)
      by_cases here : route.address = other
      · simp [here, different]
      · simp [here]

theorem bridgeAt?_register (host : Host σ) (address other : Address) (bridge : BridgeId) :
    (host.register address bridge).2.bridgeAt? other =
      if other = address then some bridge else host.bridgeAt? other := by
  unfold bridgeAt? register say
  dsimp only
  rw [List.find?_append, find?_without]
  by_cases same : other = address
  · subst other
    simp
  · have elsewhere : ¬ address = other := fun again => same again.symm
    rw [if_neg same, if_neg same]
    simp [elsewhere]

theorem bridgeAt?_unregister (host : Host σ) (route : Route) (other : Address) :
    (host.unregister route).bridgeAt? other =
      if other = route.address ∧ host.bridgeAt? other = some route.bridge then none
      else host.bridgeAt? other := by
  unfold unregister
  by_cases same : other = route.address
  · subst other
    by_cases own : host.bridgeAt? route.address = some route.bridge
    · rw [if_pos own, if_pos ⟨rfl, own⟩]
      unfold bridgeAt? say
      dsimp only
      rw [find?_without, if_pos rfl]
      rfl
    · rw [if_neg own]
      split
      · next both => exact absurd both.2 own
      · rfl
  · have apart : ¬ (other = route.address ∧ host.bridgeAt? other = some route.bridge) :=
      fun both => same both.1
    rw [if_neg apart]
    split
    · unfold bridgeAt? say
      dsimp only
      rw [find?_without, if_neg same]
    · rfl

/-- What is found in the table is an entry of it. -/
theorem mem_routing_of_bridgeAt? {address : Address} {bridge : BridgeId}
    (routed : host.bridgeAt? address = some bridge) : ⟨address, bridge⟩ ∈ host.routing := by
  unfold bridgeAt? at routed
  rcases Option.map_eq_some_iff.mp routed with ⟨route, found, rfl⟩
  have same : route.address = address := by simpa using List.find?_some found
  subst address
  exact List.mem_of_find?_eq_some found

/-! ## Callbacks -/

/-- An output event, where it reaches a bridge. -/
def outputOn (id : BridgeId) (code : Int32) (argument : OutputArgument) : Hosting σ Unit :=
  match OutputKind.ofCode code with
  | .exit => exitEvent id argument.status
  | kind => modify (·.display id kind argument.payload)

/-- An input request, where it reaches a bridge. -/
def inputOn (id : BridgeId) (prompt : Option Bytes) : Hosting σ Bytes := do
  let line ← readLine id (prompt.getD [])
  return line.terminated

/-- Callbacks on an address reach a bridge. -/
structure Reaches (host : Host σ) (address : Address) (bridge : BridgeId) : Prop where
  output : ∀ code argument,
    outputCallback address code argument host = outputOn bridge code argument host
  input : ∀ prompt, inputCallback address prompt host = inputOn bridge prompt host

/-- Callbacks on an address reach nothing.  They are reported, and whoever asks for
input is given the sentence that ends a session. -/
structure ReachesNothing (host : Host σ) (address : Address) : Prop where
  output : ∀ code argument, ∃ records,
    outputCallback address code argument host = .ok () (host.say records)
  input : ∀ prompt, ∃ records,
    inputCallback address prompt host = .ok unroutedInput (host.say records)

theorem reaches_of_routed {address : Address} {bridge : BridgeId}
    (routed : host.bridgeAt? address = some bridge) : host.Reaches address bridge where
  output := by
    intro code argument
    unfold outputCallback
    rw [Hosting.get_bind, routed]
    rfl
  input := by
    intro prompt
    unfold inputCallback
    rw [Hosting.get_bind, routed]
    rfl

theorem reachesNothing_of_unrouted {address : Address} (unrouted : host.bridgeAt? address = none) :
    host.ReachesNothing address where
  output := by
    intro code argument
    unfold outputCallback
    rw [Hosting.get_bind, unrouted]
    exact ⟨_, rfl⟩
  input := by
    intro prompt
    unfold inputCallback
    rw [Hosting.get_bind, unrouted]
    exact ⟨_, rfl⟩

/-! ## Runs -/

/-- The state that a computation leaves behind, also where it does not come back. -/
def leftBy {α : Type} (action : Hosting σ α) (host : Host σ) : Host σ :=
  match action host with
  | .ok _ next => next
  | .error _ next => next

theorem leftBy_of_leaves {α : Type} {action : Hosting σ α} {property : Host σ → Prop}
    (leaves : Hosting.Leaves action host property) : property (leftBy action host) := by
  unfold Hosting.Leaves Hosting.Leads at leaves
  unfold leftBy
  cases outcome : action host with
  | ok value next =>
      rw [outcome] at leaves
      exact leaves
  | error halt next =>
      rw [outcome] at leaves
      exact leaves

def afterRouting (host : Host σ) : RouteEvent Route → Host σ
  | .register address bridge => (host.register address bridge).2
  | .drop route => host.unregister route
  | .output address code argument => leftBy (outputCallback address code argument) host
  | .input address prompt => leftBy (inputCallback address prompt) host

/-- Callbacks leave the table alone. -/
theorem outputCallback_routing (host : Host σ) (address : Address) (code : Int32)
    (argument : OutputArgument) :
    (leftBy (outputCallback address code argument) host).routing = host.routing := by
  have served : Served 0 host (leftBy (outputCallback address code argument) host) :=
    leftBy_of_leaves (outputCallback_served host address code argument)
  exact congrArg Estate.routing served.estate

theorem inputCallback_routing (host : Host σ) (address : Address) (prompt : Option Bytes) :
    (leftBy (inputCallback address prompt) host).routing = host.routing := by
  have served : Served 0 host (leftBy (inputCallback address prompt) host) :=
    leftBy_of_leaves (inputCallback_served host address prompt)
  exact congrArg Estate.routing served.estate

theorem bridgeAt?_of_routing {after : Host σ} (same : after.routing = host.routing)
    (address : Address) : after.bridgeAt? address = host.bridgeAt? address := by
  unfold bridgeAt?
  rw [same]

end Host

/-! ## The newest registration -/

/-- A host and the routes that it gave, each at the number of its registration until it
is dropped. -/
structure Registered (σ : Type) where
  host : Host σ
  routes : List (Option Route) := []

namespace Registered

open Host

variable {σ : Type} {state : Registered σ} {address : Address} {bridge : BridgeId}

/-- The route of a registration, if it has not been dropped. -/
def route? (state : Registered σ) (number : Nat) : Option Route :=
  (state.routes[number]?).join

/-- What happens next.  A route cannot be dropped twice. -/
def after (state : Registered σ) : RouteEvent Nat → Registered σ
  | .register address bridge =>
    let (route, host) := state.host.register address bridge
    ⟨host, state.routes ++ [some route]⟩
  | .drop number =>
    match state.route? number with
    | none => state
    | some route => ⟨state.host.unregister route, state.routes.set number none⟩
  | .output address code argument =>
    { state with host := leftBy (outputCallback address code argument) state.host }
  | .input address prompt => { state with host := leftBy (inputCallback address prompt) state.host }

def afterAll (state : Registered σ) (events : List (RouteEvent Nat)) : Registered σ :=
  events.foldl after state

/-- An event leaves the entry of an address alone that neither registers anything for
it nor drops a route of it. -/
theorem bridgeAt?_after_of_kept {event : RouteEvent Nat}
    (other : ∀ bridge, event ≠ .register address bridge)
    (kept : ∀ number bridge, event = .drop number → state.route? number = some ⟨address, bridge⟩ →
      state.host.bridgeAt? address ≠ some bridge) :
    (state.after event).host.bridgeAt? address = state.host.bridgeAt? address := by
  cases event with
  | register place bridge =>
      have different : address ≠ place := by
        rintro rfl
        exact other bridge rfl
      refine (bridgeAt?_register state.host place address bridge).trans ?_
      rw [if_neg different]
  | drop number =>
      rw [after]
      cases held : state.route? number with
      | none => rfl
      | some route =>
          dsimp only
          rw [bridgeAt?_unregister]
          split
          · next own =>
              rcases own with ⟨rfl, routed⟩
              exact absurd routed (kept number route.bridge rfl held)
          · rfl
  | output place code argument =>
      exact bridgeAt?_of_routing (outputCallback_routing state.host place code argument) address
  | input place prompt =>
      exact bridgeAt?_of_routing (inputCallback_routing state.host place prompt) address

/-- Any route of an entry takes it away. -/
theorem bridgeAt?_after_of_dropped {number : Nat}
    (held : state.route? number = some ⟨address, bridge⟩)
    (routed : state.host.bridgeAt? address = some bridge) :
    (state.after (.drop number)).host.bridgeAt? address = none := by
  rw [after, held]
  refine (bridgeAt?_unregister state.host ⟨address, bridge⟩ address).trans ?_
  rw [if_pos ⟨rfl, routed⟩]

/-- The routes of one address and one bridge that there are after an event which
registers nothing for that address. -/
theorem route?_after {event : RouteEvent Nat} (other : ∀ bridge, event ≠ .register address bridge)
    (number : Nat) :
    (state.after event).route? number = some ⟨address, bridge⟩ ↔
      state.route? number = some ⟨address, bridge⟩ ∧ event ≠ .drop number := by
  cases event with
  | register place newer =>
      have different : place ≠ address := by
        rintro rfl
        exact other newer rfl
      have appended : (state.after (.register place newer)).route? number =
          ((state.routes ++ [some ⟨place, newer⟩])[number]?).join := rfl
      rw [appended, List.getElem?_append]
      split
      · exact (and_iff_left (by simp)).symm
      · next beyond =>
          have missing : state.route? number = none := by
            unfold route?
            rw [List.getElem?_eq_none (Nat.le_of_not_lt beyond)]
            rfl
          rw [missing, List.getElem?_singleton]
          split
          · simp [different]
          · simp
  | drop dropped =>
      by_cases same : dropped = number
      · subst dropped
        have gone : (state.after (.drop number)).route? number = none := by
          rw [after]
          cases held : state.route? number with
          | none => exact held
          | some route =>
              unfold route?
              dsimp only
              rw [List.getElem?_set, if_pos rfl]
              split
              · rfl
              · rfl
        rw [gone]
        simp
      · have kept : (state.after (.drop dropped)).route? number = state.route? number := by
          rw [after]
          cases state.route? dropped with
          | none => rfl
          | some route =>
              unfold route?
              dsimp only
              rw [List.getElem?_set, if_neg same]
        rw [kept]
        exact (and_iff_left (by simpa using same)).symm
  | output place code argument => exact (and_iff_left (by simp)).symm
  | input place prompt => exact (and_iff_left (by simp)).symm

theorem unregistered_cons {event : RouteEvent Nat} {rest : List (RouteEvent Nat)}
    (newest : ∀ bridge, .register address bridge ∉ event :: rest) :
    (∀ bridge, event ≠ .register address bridge) ∧
      ∀ bridge, .register address bridge ∉ rest := by
  refine ⟨?_, fun bridge listed => newest bridge (List.mem_cons_of_mem _ listed)⟩
  rintro bridge rfl
  exact newest bridge (List.mem_cons_self ..)

/-- Without a new registration an address that is not routed stays so. -/
theorem afterAll_of_unrouted {later : List (RouteEvent Nat)}
    (unrouted : state.host.bridgeAt? address = none)
    (newest : ∀ bridge, .register address bridge ∉ later) :
    (state.afterAll later).host.bridgeAt? address = none := by
  induction later generalizing state with
  | nil => exact unrouted
  | cons event rest inductionHypothesis =>
      rcases unregistered_cons newest with ⟨other, rest_newest⟩
      apply inductionHypothesis
      · rw [bridgeAt?_after_of_kept other (by simp [unrouted]), unrouted]
      · exact rest_newest

/-- An address stays routed as long as no route of its entry is dropped. -/
theorem afterAll_of_kept {later : List (RouteEvent Nat)}
    (routed : state.host.bridgeAt? address = some bridge)
    (newest : ∀ bridge, .register address bridge ∉ later)
    (kept : ∀ number, state.route? number = some ⟨address, bridge⟩ → .drop number ∉ later) :
    (state.afterAll later).host.bridgeAt? address = some bridge := by
  induction later generalizing state with
  | nil => exact routed
  | cons event rest inductionHypothesis =>
      rcases unregistered_cons newest with ⟨other, rest_newest⟩
      apply inductionHypothesis
      · rw [bridgeAt?_after_of_kept other, routed]
        rintro number held rfl found same
        rw [routed, Option.some.injEq] at same
        subst held
        exact kept number found (List.mem_cons_self ..)
      · exact rest_newest
      · intro number held listed
        exact kept number ((route?_after other number).mp held).1 (List.mem_cons_of_mem _ listed)

/-- The first route of an entry that is dropped takes it away for good. -/
theorem afterAll_of_dropped {later : List (RouteEvent Nat)} {number : Nat}
    (routed : state.host.bridgeAt? address = some bridge)
    (newest : ∀ bridge, .register address bridge ∉ later)
    (held : state.route? number = some ⟨address, bridge⟩) (dropped : .drop number ∈ later) :
    (state.afterAll later).host.bridgeAt? address = none := by
  induction later generalizing state with
  | nil => cases dropped
  | cons event rest inductionHypothesis =>
      rcases unregistered_cons newest with ⟨other, rest_newest⟩
      by_cases takes : ∃ taken, event = .drop taken ∧ state.route? taken = some ⟨address, bridge⟩
      · rcases takes with ⟨taken, rfl, found⟩
        have gone : ((state.after (.drop taken)).afterAll rest).host.bridgeAt? address = none :=
          afterAll_of_unrouted (bridgeAt?_after_of_dropped found routed) rest_newest
        exact gone
      · have different : event ≠ .drop number := fun same => takes ⟨number, same, held⟩
        apply inductionHypothesis
        · rw [bridgeAt?_after_of_kept other, routed]
          rintro taken found rfl here same
          rw [routed, Option.some.injEq] at same
          subst found
          exact takes ⟨taken, rfl, here⟩
        · exact rest_newest
        · exact (route?_after other number).mpr ⟨held, different⟩
        · exact (List.mem_cons.mp dropped).resolve_left different.symm

/-- What becomes of callbacks on an address after its newest registration. -/
structure Newest (first : Registered σ) (address : Address) (bridge : BridgeId)
    (later : List (RouteEvent Nat)) : Prop where
  /-- As long as no route of the address and the bridge was dropped, be it the newest
  or an older one, callbacks reach the bridge, whatever became of all other routes. -/
  kept : (∀ number, first.route? number = some ⟨address, bridge⟩ → .drop number ∉ later) →
    (first.afterAll later).host.Reaches address bridge
  /-- After that they reach nothing. -/
  dropped : ∀ number, first.route? number = some ⟨address, bridge⟩ → .drop number ∈ later →
    (first.afterAll later).host.ReachesNothing address

/-- The newest registration for an address settles where its callbacks go until the
first route of that address and that bridge is dropped, and from then on they go
nowhere. -/
theorem newest_registration (state : Registered σ) (address : Address) (bridge : BridgeId)
    {later : List (RouteEvent Nat)} (newest : ∀ other, .register address other ∉ later) :
    (state.after (.register address bridge)).route? state.routes.length = some ⟨address, bridge⟩ ∧
      Newest (state.after (.register address bridge)) address bridge later := by
  have routed : (state.after (.register address bridge)).host.bridgeAt? address = some bridge :=
    (bridgeAt?_register state.host address address bridge).trans (if_pos rfl)
  refine ⟨?_, ?_, ?_⟩
  · have appended : (state.after (.register address bridge)).route? state.routes.length =
        ((state.routes ++ [some ⟨address, bridge⟩])[state.routes.length]?).join := rfl
    rw [appended, List.getElem?_concat_length]
    rfl
  · intro kept
    exact reaches_of_routed (afterAll_of_kept routed newest kept)
  · intro number held dropped
    exact reachesNothing_of_unrouted (afterAll_of_dropped routed newest held dropped)

/-- The route of a registration that was replaced is stale, and then the newest one is
dropped too. -/
theorem newest_registration_over_stale_route :
    ∃ first : Host Recording.Recorder,
      Host.init {} Memory.machine {}
          [Bridge.onStreams { script := [] } {} false {} .ignore,
            Bridge.onStreams { script := [] } {} false {} .ignore] = .ok first ∧
        (Registered.afterAll { host := first }
          [.register (.at 0) 0, .register (.at 0) 1, .drop 0]).host.Reaches (.at 0) 1 ∧
        (Registered.afterAll { host := first }
          [.register (.at 0) 0, .register (.at 0) 1, .drop 0, .drop 1]).host.ReachesNothing
            (.at 0) := by
  refine ⟨_, rfl, ?_, ?_⟩
  · refine (newest_registration (Registered.afterAll { host := _ } [.register (.at 0) 0]) (.at 0) 1
      (by simp)).2.kept ?_
    intro number held listed
    rcases List.mem_singleton.mp listed with ⟨⟩
    revert held
    decide
  · exact (newest_registration (Registered.afterAll { host := _ } [.register (.at 0) 0]) (.at 0) 1
      (by simp)).2.dropped 1 rfl (List.mem_cons_of_mem _ (List.mem_cons_self ..))

end Registered

namespace Host

/-- A bridge is registered twice for one address, and the older of the two routes is
dropped while the newer one is held.  What the instance writes then is shown nowhere,
and a line that it asks for does not come from the console. -/
theorem older_route_unroutes :
    ∃ first : Host Recording.Recorder,
      Host.init {} Memory.machine {}
          [Bridge.onStreams (.ofChunks 8 [[104, 10]]) {} false {} .ignore] = .ok first ∧
        (first.afterAll [.acquire, .register (.at 0) 0 "older", .register (.at 0) 0 "newer",
          .drop "older"]).routes.find? "newer" = some ⟨.at 0, 0⟩ ∧
        (first.afterAll [.acquire, .register (.at 0) 0 "older", .register (.at 0) 0 "newer",
          .drop "older", .output (.at 0) 1 (.text [98])]).bridges = first.bridges ∧
        (first.afterAll [.acquire, .register (.at 0) 0 "older", .register (.at 0) 0 "newer",
          .drop "older"]).outcome (.input (.at 0) none) = .ok (.line unroutedInput) :=
  ⟨_, rfl, by decide, rfl, rfl⟩

end Host

end SessionHost
