import SessionHost.Proofs.Delivery
import SessionHost.Proofs.Exits
import SessionHost.Proofs.Separation

namespace SessionHost

/-!
# What happens on the consoles

A client and the engines it calls reach a bridge in many ways, and nested in each other:
an engine may write and ask for input while it answers a sentence that was itself read
from the same console.  But only four things ever happen on a bridge.  Text is shown, an
exit event comes in, a line is asked for, or the requests of an end of input are bound to
a counter.

Here a run is taken apart into these happenings.  They are recorded in the order in which
they take place, along the course that the run really takes, and whatever the run was, the
bridges afterwards are those from before with the happenings carried out on them one after
another.  A process that an exit event ends has ended with that event.
-/

/-- What happens on a bridge. -/
inductive ConsoleEvent where
  /-- Text is shown, whatever its class. -/
  | shown (payload : Bytes)
  | exited (status : Int32)
  /-- A line is asked for. -/
  | asked (prompt : Bytes)
  /-- The requests of an end of input go to this counter from now on. -/
  | bound (cancel : Option Counter)
deriving DecidableEq, Repr

/-- The event that an output callback is. -/
def ConsoleEvent.ofOutput (code : Int32) (argument : OutputArgument) : ConsoleEvent :=
  match OutputKind.ofCode code with
  | .exit => .exited argument.status
  | _ => .shown argument.payload

/-- A bridge after an event. -/
def Bridge.meet (bridge : Bridge) : ConsoleEvent → Bridge
  | .shown payload => (bridge.say payload).1
  | .exited status => (bridge.exit status).1
  | .asked prompt => (bridge.nextLine prompt none).bridge
  | .bound cancel => { bridge with cancel }

/-- An event on one of the bridges. -/
structure Happening where
  bridge : BridgeId
  event : ConsoleEvent
deriving DecidableEq, Repr

/-- The status with which a process ended itself. -/
def Halt.status? : Halt → Option Int32
  | .exited status => some status
  | _ => none

namespace Happening

/-- All bridges after a happening. -/
def act (bridges : List Bridge) (happening : Happening) : List Bridge :=
  bridges.modify happening.bridge (·.meet happening.event)

/-- The status with which a happening ends the process: that of an exit event on a bridge
with a terminating hook. -/
def ends? (hooks : List ExitHook) (happening : Happening) : Option Int32 :=
  match happening.event with
  | .exited status => if hooks[happening.bridge]? = some .terminate then some status else none
  | _ => none

/-- The events on one bridge. -/
def on (bridge : BridgeId) (happenings : List Happening) : List ConsoleEvent :=
  happenings.filterMap fun happening =>
    if happening.bridge = bridge then some happening.event else none

/-- The process goes on past all happenings, or it ends with the last of them. -/
structure EndWith (hooks : List ExitHook) (happenings : List Happening)
    (status : Option Int32) : Prop where
  only : happenings.filterMap (ends? hooks) = status.toList
  last : happenings.getLast?.bind (ends? hooks) = status

namespace EndWith

variable {hooks : List ExitHook} {own later : List Happening} {status : Option Int32}

theorem nil : EndWith hooks [] none :=
  ⟨rfl, rfl⟩

theorem singleton (happening : Happening) : EndWith hooks [happening] (happening.ends? hooks) := by
  refine ⟨?_, rfl⟩
  rw [List.filterMap_cons]
  cases happening.ends? hooks with
  | none => rfl
  | some status => rfl

/-- What happens further on happens only if the process has gone on. -/
theorem append (goesOn : EndWith hooks own none) (further : EndWith hooks later status) :
    EndWith hooks (own ++ later) status := by
  refine ⟨?_, ?_⟩
  · rw [List.filterMap_append, goesOn.only, further.only]
    rfl
  · rw [List.getLast?_append]
    have last := further.last
    cases found : later.getLast? with
    | none =>
        rw [found] at last
        rw [Option.none_or, goesOn.last]
        exact last
    | some happening =>
        rw [found] at last
        exact last

end EndWith

theorem on_append (bridge : BridgeId) (earlier later : List Happening) :
    on bridge (earlier ++ later) = on bridge earlier ++ on bridge later :=
  List.filterMap_append

/-- A happening touches its own bridge and no other. -/
theorem getElem?_act (bridges : List Bridge) (happening : Happening) (id : BridgeId) :
    (act bridges happening)[id]? =
      bridges[id]?.map fun bridge => (on id [happening]).foldl Bridge.meet bridge := by
  rw [act, List.getElem?_modify, on, List.filterMap_cons, Option.map_eq_map]
  by_cases here : happening.bridge = id
  · simp only [if_pos here]
    rfl
  · simp only [if_neg here]
    rfl

/-- What becomes of a bridge is what its own events make of it. -/
theorem getElem?_foldl_act (happenings : List Happening) (bridges : List Bridge) (id : BridgeId) :
    (happenings.foldl act bridges)[id]? =
      bridges[id]?.map fun bridge => (on id happenings).foldl Bridge.meet bridge := by
  induction happenings generalizing bridges with
  | nil => exact Option.map_id'.symm
  | cons happening rest inductionHypothesis =>
      have first : on id (happening :: rest) = on id [happening] ++ on id rest :=
        on_append id [happening] rest
      rw [List.foldl_cons, inductionHypothesis, getElem?_act, Option.map_map, first]
      congr 1
      funext bridge
      rw [List.foldl_append]
      rfl

end Happening

/-- No event changes the terms of a bridge, its cancel target apart. -/
theorem Bridge.meet_terms (bridge : Bridge) (event : ConsoleEvent) :
    { (bridge.meet event).terms with cancel := bridge.cancel } = bridge.terms := by
  cases event with
  | shown payload => rfl
  | exited status => rfl
  | asked prompt =>
      rw [meet, (bridge.nextLine_keeps prompt none).1]
      rfl
  | bound cancel => rfl

theorem Bridge.meet_hook (bridge : Bridge) (event : ConsoleEvent) :
    (bridge.meet event).hook = bridge.hook :=
  congrArg Terms.hook (bridge.meet_terms event)

theorem Bridge.foldl_meet_hook (bridge : Bridge) (events : List ConsoleEvent) :
    (events.foldl meet bridge).hook = bridge.hook := by
  induction events generalizing bridge with
  | nil => rfl
  | cons event rest inductionHypothesis =>
      exact (inductionHypothesis (bridge.meet event)).trans (bridge.meet_hook event)

open Happening (act ends? EndWith)

namespace Host

variable {σ : Type} {host : Host σ} {handle : Handle}

def hooks (host : Host σ) : List ExitHook :=
  host.bridges.map (·.hook)

/-- The happenings have made the bridges what they are now, and they have brought the host
to its end or not. -/
structure Told (host : Host σ) (happenings : List Happening) (status : Option Int32)
    (after : Host σ) : Prop where
  bridges : after.bridges = happenings.foldl act host.bridges
  ends : EndWith host.hooks happenings status

/-- A computation during which these things happen, however it ends. -/
def Tells {α : Type} (action : Hosting σ α) (host : Host σ) (happenings : List Happening) : Prop :=
  Hosting.Leads action host (fun _ => Told host happenings none)
    fun halt => Told host happenings halt.status?

theorem hooks_foldl_act (happenings : List Happening) (bridges : List Bridge) :
    (happenings.foldl act bridges).map (·.hook) = bridges.map (·.hook) := by
  apply List.ext_getElem?
  intro id
  rw [List.getElem?_map, List.getElem?_map, Happening.getElem?_foldl_act, Option.map_map]
  congr 1
  funext bridge
  exact bridge.foldl_meet_hook _

theorem hooks_of_told {happenings : List Happening} {status : Option Int32} {after : Host σ}
    (told : Told host happenings status after) : after.hooks = host.hooks := by
  rw [hooks, told.bridges]
  exact hooks_foldl_act happenings host.bridges

theorem Told.append {own later : List Happening} {status : Option Int32} {middle after : Host σ}
    (first : Told host own none middle) (second : Told middle later status after) :
    Told host (own ++ later) status after where
  bridges := by
    rw [second.bridges, first.bridges, List.foldl_append]
  ends := by
    have further := second.ends
    rw [hooks_of_told first] at further
    exact first.ends.append further

theorem told_nothing {after : Host σ} (same : after.bridges = host.bridges) :
    Told host [] none after :=
  ⟨same, EndWith.nil⟩

/-- One thing has happened to one bridge, and the process went on or it did not. -/
theorem told_one {id : BridgeId} {event : ConsoleEvent} {status : Option Int32} {after : Host σ}
    (changed : after.bridges = host.bridges.modify id (·.meet event))
    (ends : ends? host.hooks ⟨id, event⟩ = status) : Told host [⟨id, event⟩] status after := by
  refine ⟨changed, ?_⟩
  rw [← ends]
  exact EndWith.singleton _

namespace Tells

variable {α β : Type} {own : List Happening}

theorem bind {first : Hosting σ α} {next : α → Hosting σ β} {later : α → Host σ → List Happening}
    (tells : Tells first host own)
    (onward : ∀ value after, Tells (next value) after (later value after)) :
    Tells (first >>= next) host (own ++ ensuing first host later) := by
  unfold Tells Hosting.Leads at tells
  rw [Tells, Hosting.leads_bind]
  unfold Hosting.Leads ensuing
  cases outcome : first host with
  | error halt middle =>
      rw [outcome] at tells
      dsimp only
      rw [List.append_nil]
      exact tells
  | ok value middle =>
      rw [outcome] at tells
      exact (onward value middle).mono (fun _ _ => tells.append) fun _ _ => tells.append

/-- Nothing more happens behind a computation. -/
theorem bind_nothing {first : Hosting σ α} {next : α → Hosting σ β}
    (tells : Tells first host own) (onward : ∀ value after, Tells (next value) after []) :
    Tells (first >>= next) host own := by
  have same : own ++ ensuing first host (fun _ _ => []) = own := by
    rw [ensuing]
    cases first host with
    | ok value after => exact List.append_nil own
    | error halt after => exact List.append_nil own
  rw [← same]
  exact tells.bind onward

/-- What comes first happens on no bridge, and always goes on. -/
theorem of_step {action : Hosting σ α} {middle : Host σ} (same : middle.bridges = host.bridges)
    (tells : Tells action middle own) :
    Hosting.Leads action middle (fun _ => Told host own none)
      fun halt => Told host own halt.status? := by
  have first : Told host [] none middle := told_nothing same
  exact tells.mono (fun _ _ => first.append) fun _ _ => first.append

end Tells

/-! ## Single requests -/

theorem display_told (host : Host σ) (id : BridgeId) (kind : OutputKind) (payload : Bytes) :
    Told host [⟨id, .shown payload⟩] none (host.display id kind payload) :=
  told_one (bridges_display host id kind payload) rfl

theorem exitEvent_tells (host : Host σ) (id : BridgeId) (status : Int32) :
    Tells (exitEvent id status) host [⟨id, .exited status⟩] := by
  have hooked : host.hooks[id]? = host.bridges[id]?.map (·.hook) := List.getElem?_map
  rw [Tells, exitEvent_eq, Hosting.leads_bind, Hosting.leads_get]
  cases found : host.bridges[id]? with
  | none =>
      rw [found] at hooked
      refine told_one (bridges_of_missing found _).symm ?_
      rw [ends?, hooked]
      exact if_neg (by simp)
  | some bridge =>
      rw [found] at hooked
      have changed := bridges_setBridge found (·.meet (.exited status))
      dsimp only
      rw [Hosting.leads_bind, Hosting.leads_set]
      by_cases terminating : bridge.hook = .terminate
      · rw [if_pos terminating]
        refine told_one changed ?_
        rw [ends?, hooked]
        exact if_pos (congrArg some terminating)
      · rw [if_neg terminating]
        refine told_one changed ?_
        rw [ends?, hooked]
        exact if_neg (by simpa using terminating)

theorem readLine_tells (host : Host σ) (id : BridgeId) (prompt : Bytes) :
    Tells (readLine id prompt) host [⟨id, .asked prompt⟩] := by
  cases found : host.bridges[id]? with
  | none =>
      rw [Tells, readLine, Hosting.leads_bind, Hosting.leads_get, found]
      exact told_one (bridges_of_missing found _).symm rfl
  | some bridge =>
      rcases readLine_of_found found prompt with ⟨after, read, changed⟩
      have told : Told host [⟨id, .asked prompt⟩] none after := told_one changed rfl
      unfold Tells Hosting.Leads
      rw [read]
      cases (bridge.nextLine prompt none).line with
      | none => exact told
      | some line => exact told

/-- What the output callback makes happen. -/
def outputHappenings (host : Host σ) (address : Address) (code : Int32)
    (argument : OutputArgument) : List Happening :=
  (host.bridgeAt? address).toList.map (⟨·, .ofOutput code argument⟩)

/-- What the input callback makes happen. -/
def inputHappenings (host : Host σ) (address : Address) (prompt : Option Bytes) :
    List Happening :=
  (host.bridgeAt? address).toList.map (⟨·, .asked (prompt.getD [])⟩)

theorem outputCallback_tells (host : Host σ) (address : Address) (code : Int32)
    (argument : OutputArgument) :
    Tells (outputCallback address code argument) host
      (host.outputHappenings address code argument) := by
  rw [Tells, outputCallback, outputHappenings, Hosting.leads_bind, Hosting.leads_get]
  cases host.bridgeAt? address with
  | none => exact told_nothing rfl
  | some id =>
      dsimp only
      rw [ConsoleEvent.ofOutput]
      cases OutputKind.ofCode code with
      | exit => exact exitEvent_tells host id argument.status
      | formatted => exact display_told host id _ _
      | error => exact display_told host id _ _
      | log => exact display_told host id _ _
      | system => exact display_told host id _ _
      | file => exact display_told host id _ _
      | other code => exact display_told host id _ _

theorem inputCallback_tells (host : Host σ) (address : Address) (prompt : Option Bytes) :
    Tells (inputCallback address prompt) host (host.inputHappenings address prompt) := by
  rw [Tells, inputCallback, inputHappenings, Hosting.leads_bind, Hosting.leads_get]
  cases host.bridgeAt? address with
  | none => exact told_nothing rfl
  | some id =>
      exact (readLine_tells host id (prompt.getD [])).bind_nothing fun _ _ => told_nothing rfl

theorem raise_tells (host : Host σ) : Tells raise host [] := by
  have unmoved := raise_bridges host
  unfold raise at unmoved ⊢
  rw [Tells, Hosting.leads_bind, Hosting.leads_get]
  rw [Hosting.leaves_get_bind] at unmoved
  cases handled : host.handler with
  | true =>
      rw [handled] at unmoved
      exact told_nothing unmoved
  | false =>
      cases host.undisposed with
      | withheld => exact told_nothing rfl
      | fatal => exact told_nothing rfl

/-! ## Calls into an engine -/

/-- What happens while a conversation is served. -/
def happeningsOf {α : Type} (handle : Handle) : Conversation α → Host σ → List Happening
  | .finished _, _ => []
  | .output code argument next, host =>
    host.outputHappenings (.at handle) code argument ++
      ensuing (outputCallback (.at handle) code argument) host fun _ after =>
        happeningsOf handle next after
  | .input prompt next, host =>
    host.inputHappenings (.at handle) prompt ++
      ensuing (inputCallback (.at handle) prompt) host fun line after =>
        happeningsOf handle (next line) after
  | .readCell next, host => happeningsOf handle (next (host.cell? handle)) host
  | .writeCell value next, host => happeningsOf handle next (host.setCell handle value)
  | .signal next, host =>
    ensuing raise host fun handled after => happeningsOf handle (next handled) after
  | .note entry next, host => happeningsOf handle next (host.enter (.noted handle entry))

/-- The induction is on the conversation: what a request leaves behind is where the rest of
the conversation starts. -/
theorem converse_tells {α : Type} (conversation : Conversation α) (host : Host σ) :
    Tells (converse handle conversation) host (happeningsOf handle conversation host) := by
  induction conversation generalizing host with
  | finished result => exact told_nothing rfl
  | output code argument next inductionHypothesis =>
      exact (outputCallback_tells host (.at handle) code argument).bind
        fun _ after => inductionHypothesis after
  | input prompt next inductionHypothesis =>
      exact (inputCallback_tells host (.at handle) prompt).bind
        fun line after => inductionHypothesis line after
  | readCell next inductionHypothesis => exact inductionHypothesis _ host
  | writeCell value next inductionHypothesis =>
      rw [converse, Tells, Hosting.leads_bind, Hosting.leads_modify]
      exact Tells.of_step rfl (inductionHypothesis (host.setCell handle value))
  | signal next inductionHypothesis =>
      exact (raise_tells host).bind fun handled after => inductionHypothesis handled after
  | note entry next inductionHypothesis =>
      rw [converse, Tells, Hosting.leads_bind, Hosting.leads_modify]
      exact Tells.of_step rfl (inductionHypothesis (host.enter (.noted handle entry)))

section Calls

variable [Engine σ]

/-- What happens while an instance answers a call. -/
def happeningsDuring (handle : Handle) (request : Call) (host : Host σ) : List Happening :=
  happeningsOf handle (Engine.respond host.engine handle request.symbol request.arguments)
    (host.enter (.called handle request))

theorem call_tells (handle : Handle) (request : Call) (host : Host σ) :
    Tells (call handle request) host (happeningsDuring handle request host) := by
  refine leads_call.mpr (Hosting.Leads.mono (converse_tells _ _) ?_ ?_)
  · intro answer after told
    exact ⟨told.bridges, told.ends⟩
  · intro halt after told
    exact ⟨told.bridges, told.ends⟩

/-- A call through a lease. -/
def sessionHappenings (id : SessionId) (request : Call) (host : Host σ) : List Happening :=
  (host.registry.sessions[id]?).elim [] fun session => happeningsDuring session.handle request host

theorem callSession_tells (id : SessionId) (request : Call) (host : Host σ) :
    Tells (callSession id request) host (sessionHappenings id request host) := by
  rw [Tells, callSession, sessionHappenings, Hosting.leads_bind, Hosting.leads_get]
  cases host.registry.sessions[id]? with
  | none => exact told_nothing rfl
  | some session => exact (Hosting.leads_map _ _).mpr (call_tells session.handle request host)

/-- A call by id. -/
def forwardHappenings (raw : Int) (request : Call) (host : Host σ) : List Happening :=
  match host.registry.lookup raw with
  | .error _ => []
  | .ok id => if request.isSendable then sessionHappenings id request host else []

theorem forward_tells (raw : Int) (request : Call) (host : Host σ) :
    Tells (forward raw request) host (forwardHappenings raw request host) := by
  rw [Tells, forward, forwardHappenings, Hosting.leads_bind, Hosting.leads_get]
  cases host.registry.lookup raw with
  | error error => exact told_nothing rfl
  | ok id =>
      dsimp only
      split
      · apply (callSession_tells id request host).bind_nothing
        intro answer next
        cases answer with
        | none => exact told_nothing rfl
        | some result => exact told_nothing rfl
      · exact told_nothing rfl

end Calls

end Host

end SessionHost
