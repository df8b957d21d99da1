import SessionHost.Proofs.Hosting

namespace SessionHost

/-!
# What serving an engine leaves alone

While an engine answers a call it can write, read, look at its break cell and
be interrupted, and all of that reaches the host through callbacks.  None of it
touches what the host holds: the session table, the routes, the interrupt
target, or anything that keeps a session alive.  That part of the state is the
estate of a host, and a call into an engine leaves the estate as it was.

The journal grows by what the called instance did and by nothing else, so a
call never tears anything down.
-/

/-! ## Bridges -/

namespace Bridge

/-- Everything about a bridge but its streams, its latch and its exit events. -/
structure Terms where
  interactive : Bool
  maxInput : Nat
  shutdown : Bytes
  cancel : Option Counter
  hook : ExitHook
deriving DecidableEq

def terms (bridge : Bridge) : Terms where
  interactive := bridge.interactive
  maxInput := bridge.maxInput
  shutdown := bridge.shutdown
  cancel := bridge.cancel
  hook := bridge.hook

/-- The exit events that a bridge has recorded. -/
def exits (bridge : Bridge) : Option Int32 × List Int32 :=
  (bridge.exitStatus, bridge.hooked)

@[simp]
theorem terms_display (bridge : Bridge) (kind : OutputKind) (payload : Bytes) :
    (bridge.display kind payload).1.terms = bridge.terms :=
  rfl

@[simp]
theorem terms_exit (bridge : Bridge) (status : Int32) :
    (bridge.exit status).1.terms = bridge.terms :=
  rfl

namespace Waiting

/-- Neither kind of end changes the terms or the exit events. -/
theorem ended_keeps (waiting : Waiting) :
    match waiting.ended with
    | .ok next => next.bridge.terms = waiting.bridge.terms ∧
        next.bridge.exits = waiting.bridge.exits
    | .error turn => turn.bridge.terms = waiting.bridge.terms ∧
        turn.bridge.exits = waiting.bridge.exits := by
  unfold ended
  cases sitting : waiting.bridge.interactive with
  | false => exact ⟨rfl, rfl⟩
  | true =>
      simp only [if_true, breakOff]
      cases waiting.cell with
      | none => exact ⟨rfl, rfl⟩
      | some value => exact ⟨rfl, rfl⟩

theorem attempt_keeps (waiting : Waiting) :
    match waiting.attempt with
    | .ok next => next.bridge.terms = waiting.bridge.terms ∧
        next.bridge.exits = waiting.bridge.exits
    | .error turn => turn.bridge.terms = waiting.bridge.terms ∧
        turn.bridge.exits = waiting.bridge.exits := by
  unfold attempt
  cases reading : waiting.bridge.source.readLine waiting.bridge.maxInput with
  | mk outcome source =>
      cases outcome with
      | line bytes => exact ⟨rfl, rfl⟩
      | ended => exact ended_keeps { waiting with bridge := { waiting.bridge with source } }
      | failed cause =>
          exact ended_keeps
            { waiting with
              bridge := { waiting.bridge with source }
              log := Log.warn ("failed to read console input: " ++ cause.message) [] ::
                waiting.log }

theorem await_keeps (attempts : Nat) (waiting : Waiting) :
    (waiting.await attempts).bridge.terms = waiting.bridge.terms ∧
      (waiting.await attempts).bridge.exits = waiting.bridge.exits := by
  induction attempts generalizing waiting with
  | zero => exact ⟨rfl, rfl⟩
  | succ attempts inductionHypothesis =>
      have kept := attempt_keeps waiting
      unfold await
      cases outcome : waiting.attempt with
      | error turn =>
          rw [outcome] at kept
          exact kept
      | ok next =>
          rw [outcome] at kept
          have later := inductionHypothesis next
          exact ⟨later.1.trans kept.1, later.2.trans kept.2⟩

end Waiting

/-- A request for a line changes neither the terms nor the exit events. -/
theorem nextLine_keeps (bridge : Bridge) (prompt : Bytes) (cell : Option UInt8) :
    (bridge.nextLine prompt cell).bridge.terms = bridge.terms ∧
      (bridge.nextLine prompt cell).bridge.exits = bridge.exits := by
  unfold nextLine
  cases latched : bridge.exhausted with
  | true => exact ⟨rfl, rfl⟩
  | false => exact Waiting.await_keeps _ ⟨(bridge.say prompt).1, cell, _⟩

end Bridge

/-! ## The estate -/

/-- What a host holds, apart from the engine, the cells and the consoles. -/
structure Estate where
  registry : Registry
  opened : Bool
  /-- The terms of every bridge, its cancel target among them. -/
  terms : List Bridge.Terms
  routing : List Route
  target : Option Handle
  pinned : List Counter
  handler : Bool
  leases : Bindings SessionId
  counters : Bindings Counter
  guards : Bindings Counter
  routes : Bindings Route
  drivers : Bindings Driver

/-- What an entry of the journal says about an instance that is being called. -/
def Entry.IsUseOf (handle : Handle) : Entry → Prop
  | .called other _ => other = handle
  | .noted other _ => other = handle
  | .created _ => False
  | .freed _ => False

namespace Host

variable {σ : Type}

def estate (host : Host σ) : Estate where
  registry := host.registry
  opened := host.opened
  terms := host.bridges.map Bridge.terms
  routing := host.routing
  target := host.target
  pinned := host.pinned
  handler := host.handler
  leases := host.leases
  counters := host.counters
  guards := host.guards
  routes := host.routes
  drivers := host.drivers

/-- A call into an instance: the estate stays, and the journal grows by uses of
the instance. -/
structure Served (handle : Handle) (before after : Host σ) : Prop where
  estate : after.estate = before.estate
  journal : ∃ entries, after.journal = entries ++ before.journal ∧
    ∀ entry ∈ entries, entry.IsUseOf handle

namespace Served

variable {handle : Handle} {first second third : Host σ}

theorem refl (host : Host σ) : Served handle host host :=
  ⟨rfl, [], rfl, by simp⟩

theorem trans (before : Served handle first second) (after : Served handle second third) :
    Served handle first third := by
  rcases before.journal with ⟨earlier, earlierGrowth, earlierUses⟩
  rcases after.journal with ⟨later, laterGrowth, laterUses⟩
  refine ⟨after.estate.trans before.estate, later ++ earlier, ?_, ?_⟩
  · rw [laterGrowth, earlierGrowth, List.append_assoc]
  · intro entry listed
    rcases List.mem_append.mp listed with listed | listed
    · exact laterUses entry listed
    · exact earlierUses entry listed

/-- What is nobody's use in particular is no use of any instance. -/
theorem journal_eq (served : ∀ handle, Served handle first second) :
    second.journal = first.journal := by
  rcases (served 0).journal with ⟨entries, growth, uses⟩
  rcases (served 1).journal with ⟨entries', growth', uses'⟩
  have same : entries = entries' := List.append_cancel_right (growth.symm.trans growth')
  subst entries'
  cases entries with
  | nil => exact growth
  | cons entry rest =>
      have use := uses entry (List.mem_cons_self ..)
      have use' := uses' entry (List.mem_cons_self ..)
      cases entry with
      | created _ => cases use
      | freed _ => cases use
      | called _ _ => exact absurd (use.symm.trans use') Nat.zero_ne_one
      | noted _ _ => exact absurd (use.symm.trans use') Nat.zero_ne_one

/-- A change that concerns neither the estate nor the journal. -/
theorem of_eq (estate : second.estate = first.estate) (journal : second.journal = first.journal) :
    Served handle first second :=
  ⟨estate, [], by simpa using journal, by simp⟩

end Served

/-! ## Single requests -/

/-- A view of the bridges that does not see what was changed. -/
theorem map_setBridge {β : Type} (view : Bridge → β) {host : Host σ} {id : BridgeId}
    {bridge after : Bridge} (found : host.bridges[id]? = some bridge)
    (kept : view after = view bridge) :
    (host.setBridge id after).bridges.map view = host.bridges.map view := by
  apply List.ext_getElem?
  intro position
  unfold setBridge
  simp only [List.getElem?_map, List.getElem?_set]
  by_cases same : id = position
  · subst position
    have bound := (List.getElem?_eq_some_iff.mp found).1
    simp only [if_true, bound, found, Option.map_some, kept]
  · simp only [if_neg same]

theorem estate_setBridge (host : Host σ) (id : BridgeId) {bridge after : Bridge}
    (found : host.bridges[id]? = some bridge) (kept : after.terms = bridge.terms) :
    (host.setBridge id after).estate = host.estate := by
  unfold estate
  rw [map_setBridge Bridge.terms found kept]
  rfl

variable {handle : Handle}

theorem display_served (host : Host σ) (id : BridgeId) (kind : OutputKind) (payload : Bytes) :
    Served handle host (host.display id kind payload) := by
  unfold display
  cases found : host.bridges[id]? with
  | none => exact Served.refl host
  | some bridge =>
      exact Served.of_eq (estate_setBridge host id found (bridge.terms_display kind payload)) rfl

theorem exitEvent_served (host : Host σ) (id : BridgeId) (status : Int32) :
    Hosting.Leaves (exitEvent id status) host (Served handle host) := by
  rw [exitEvent_eq, Hosting.Leaves]
  simp only [Hosting.leads_bind, Hosting.leads_get]
  cases found : host.bridges[id]? with
  | none => exact Served.refl host
  | some bridge =>
      have served : Served handle host
          ((host.setBridge id (bridge.exit status).1).say (bridge.exit status).2) :=
        Served.of_eq (estate_setBridge host id found (bridge.terms_exit status)) rfl
      simp only [Hosting.leads_bind, Hosting.leads_set]
      split
      · exact served
      · exact served

theorem readLine_served (host : Host σ) (id : BridgeId) (prompt : Bytes) :
    Hosting.Leaves (readLine id prompt) host (Served handle host) := by
  unfold readLine Hosting.Leaves
  simp only [Hosting.leads_bind, Hosting.leads_get]
  cases found : host.bridges[id]? with
  | none => exact Served.refl host
  | some bridge =>
      have kept := (bridge.nextLine_keeps prompt
        (bridge.cancel.bind fun counter => host.cell? counter.handle)).1
      have estate := estate_setBridge host id found kept
      simp only [Hosting.leads_bind, Hosting.leads_set]
      split
      · split
        · exact Served.of_eq estate rfl
        · exact Served.of_eq estate rfl
      · split
        · exact Served.of_eq estate rfl
        · exact Served.of_eq estate rfl

theorem outputCallback_served (host : Host σ) (address : Address) (code : Int32)
    (argument : OutputArgument) :
    Hosting.Leaves (outputCallback address code argument) host (Served handle host) := by
  unfold outputCallback Hosting.Leaves
  simp only [Hosting.leads_bind, Hosting.leads_get]
  cases host.bridgeAt? address with
  | none => exact Served.of_eq rfl rfl
  | some bridge =>
      cases OutputKind.ofCode code with
      | exit => exact exitEvent_served host bridge argument.status
      | formatted => exact display_served host bridge _ _
      | error => exact display_served host bridge _ _
      | log => exact display_served host bridge _ _
      | system => exact display_served host bridge _ _
      | file => exact display_served host bridge _ _
      | other code => exact display_served host bridge _ _

theorem inputCallback_served (host : Host σ) (address : Address) (prompt : Option Bytes) :
    Hosting.Leaves (inputCallback address prompt) host (Served handle host) := by
  unfold inputCallback Hosting.Leaves
  simp only [Hosting.leads_bind, Hosting.leads_get]
  cases host.bridgeAt? address with
  | none => exact Served.of_eq rfl rfl
  | some bridge =>
      simp only [Hosting.leads_bind, Hosting.leads_pure]
      exact readLine_served host bridge _

theorem bump_estate (host : Host σ) (other : Handle) : (host.bump other).2.estate = host.estate := by
  unfold bump
  cases host.cell? other with
  | none => rfl
  | some value => rfl

theorem bump_journal (host : Host σ) (other : Handle) :
    (host.bump other).2.journal = host.journal := by
  unfold bump
  cases host.cell? other with
  | none => rfl
  | some value => rfl

theorem bumpTimes_served (times : Nat) (host : Host σ) (other : Handle) :
    Served handle host (bumpTimes times host other).2 := by
  unfold bumpTimes
  cases host.cell? other with
  | none => exact Served.refl host
  | some value =>
      dsimp only
      split
      · exact Served.refl host
      · exact Served.of_eq rfl rfl

theorem incrementBreak_served (host : Host σ) (raw : Int) :
    Served handle host (host.incrementBreak raw).2 := by
  unfold incrementBreak
  cases host.registry.lookup raw with
  | error error => exact Served.refl host
  | ok id =>
      dsimp only
      cases host.resolve id with
      | none => exact Served.refl host
      | some counter =>
          exact Served.of_eq (bump_estate host counter.handle) (bump_journal host counter.handle)

theorem deliver_served (host : Host σ) : Served handle host host.deliver.2 := by
  unfold deliver
  cases host.target with
  | none => exact Served.refl host
  | some armed => exact Served.of_eq (bump_estate host armed) (bump_journal host armed)

theorem raise_served (host : Host σ) :
    Hosting.Leaves raise host (Served handle host) := by
  unfold raise Hosting.Leaves
  simp only [Hosting.leads_bind, Hosting.leads_get]
  cases host.handler with
  | true => exact deliver_served host
  | false =>
      cases host.undisposed with
      | withheld => exact Served.refl host
      | fatal => exact Served.refl host

/-! ## A whole call -/

/-- A relation that each kind of request respects holds across a conversation.
The induction is on the conversation: what a request leaves behind is where the
rest of the conversation starts. -/
theorem converse_leaves (relation : Host σ → Host σ → Prop)
    (refl : ∀ host, relation host host)
    (trans : ∀ {first second third}, relation first second → relation second third →
      relation first third)
    (onOutput : ∀ host code argument,
      Hosting.Leaves (outputCallback (.at handle) code argument) host (relation host))
    (onInput : ∀ host prompt,
      Hosting.Leaves (inputCallback (.at handle) prompt) host (relation host))
    (onWrite : ∀ host value, relation host (host.setCell handle value))
    (onSignal : ∀ host, Hosting.Leaves raise host (relation host))
    (onNote : ∀ host entry, relation host (host.enter (.noted handle entry)))
    {α : Type} (conversation : Conversation α) (host : Host σ) :
    Hosting.Leaves (converse handle conversation) host (relation host) := by
  have continued {β : Type} {request : Hosting σ β} {rest : β → Hosting σ α} {start : Host σ}
      (served : Hosting.Leaves request start (relation start))
      (later : ∀ value middle, Hosting.Leaves (rest value) middle (relation middle)) :
      Hosting.Leaves (request >>= rest) start (relation start) := by
    apply served.bind
    intro value middle reached
    exact (later value middle).mono fun _ => trans reached
  induction conversation generalizing host with
  | finished result => exact refl host
  | output code argument next inductionHypothesis =>
      exact continued (onOutput host code argument) fun _ middle => inductionHypothesis middle
  | input prompt next inductionHypothesis =>
      exact continued (onInput host prompt) fun line middle => inductionHypothesis line middle
  | readCell next inductionHypothesis => exact inductionHypothesis _ host
  | writeCell value next inductionHypothesis =>
      have written : Hosting.Leaves (modify (·.setCell handle value)) host (relation host) :=
        onWrite host value
      exact continued written fun _ middle => inductionHypothesis middle
  | signal next inductionHypothesis =>
      exact continued (onSignal host) fun handled middle => inductionHypothesis handled middle
  | note entry next inductionHypothesis =>
      have noted : Hosting.Leaves (modify (·.enter (.noted handle entry))) host (relation host) :=
        onNote host entry
      exact continued noted fun _ middle => inductionHypothesis middle

theorem converse_served {α : Type} (conversation : Conversation α) (host : Host σ) :
    Hosting.Leaves (converse handle conversation) host (Served handle host) :=
  converse_leaves (Served handle) Served.refl Served.trans
    (fun host => outputCallback_served host _)
    (fun host => inputCallback_served host _)
    (fun _ _ => Served.of_eq rfl rfl)
    raise_served
    (fun _ entry => ⟨rfl, [.noted handle entry], rfl, by simp [Entry.IsUseOf]⟩)
    conversation host

/-- A call enters the journal before the engine answers, and the engine's own
state is put back behind the answer. -/
theorem leads_call [Engine σ] {request : Call} {host : Host σ}
    {returns : request.Result → Host σ → Prop} {halts : Halt → Host σ → Prop} :
    Hosting.Leads (call handle request) host returns halts ↔
      Hosting.Leads
        (converse handle (Engine.respond host.engine handle request.symbol request.arguments))
        (host.enter (.called handle request))
        (fun answer after => returns (request.received answer.1) { after with engine := answer.2 })
        halts := by
  unfold call
  simp only [Hosting.leads_bind, Hosting.leads_modify, Hosting.leads_get, Hosting.leads_pure]
  rfl

/-- A call into an engine. -/
theorem call_served [Engine σ] (request : Call) (host : Host σ) :
    Hosting.Leaves (call handle request) host (Served handle host) := by
  have entered : Served handle host (host.enter (.called handle request)) :=
    ⟨rfl, [.called handle request], rfl, by simp [Entry.IsUseOf]⟩
  refine leads_call.mpr (Hosting.Leads.mono (converse_served _ _) ?_ fun _ _ => entered.trans)
  intro result after served
  exact (entered.trans served).trans (Served.of_eq rfl rfl)

/-- A call is entered before anything else happens. -/
theorem call_journal [Engine σ] (request : Call) (host : Host σ) :
    Hosting.Leaves (call handle request) host fun next =>
      ∃ entries, next.journal = entries ++ .called handle request :: host.journal := by
  have entered (next : Host σ) (served : Served handle (host.enter (.called handle request)) next) :
      ∃ entries, next.journal = entries ++ .called handle request :: host.journal := by
    rcases served.journal with ⟨entries, growth, _⟩
    exact ⟨entries, growth⟩
  exact leads_call.mpr
    (Hosting.Leads.mono (converse_served _ _) (fun _ => entered) fun _ => entered)

end Host

end SessionHost
