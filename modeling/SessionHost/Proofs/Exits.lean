import SessionHost.Proofs.Lifetime
import SessionHost.Proofs.Service

namespace SessionHost

/-!
# Exit events and submissions

While an engine answers a call it may raise exit events on the bridge that its
address is routed to, any number of them.  Only the first one that the bridge
ever sees settles its exit status.  `exitsDuring` is the list of those events
for one call, read off the conversation as it is actually served.

The sentences that a host has submitted are read off the journal.  A call
enters its own sentence there, and whatever the engine executes from within
that sentence is not among them.
-/

/-- The sentence that an entry of the journal says was handed to an instance. -/
def Entry.submission? : Entry → Option (Handle × Bytes)
  | .called handle (.execute sentence) => some (handle, sentence)
  | _ => none

/-- The sentence that a call submits, if it is that kind of call. -/
def Call.sentence? : Call → Option Bytes
  | .execute sentence => some sentence
  | _ => none

namespace Host

variable {σ : Type}

/-- The sentences that the host has submitted, and to which instance, in order.
Sentences that an engine executes from within another one are not among them. -/
def submissions (host : Host σ) : List (Handle × Bytes) :=
  (host.journal.filterMap Entry.submission?).reverse

/-- Neither an exit event nor a submission. -/
structure Quiet (before after : Host σ) : Prop where
  exits : ∀ bridge, after.exitStatus? bridge = before.exitStatus? bridge
  submissions : after.submissions = before.submissions

variable {host before after first second third : Host σ} {handle : Handle}

namespace Quiet

theorem refl (host : Host σ) : Quiet host host :=
  ⟨fun _ => rfl, rfl⟩

theorem trans (earlier : Quiet first second) (later : Quiet second third) : Quiet first third :=
  ⟨fun bridge => (later.exits bridge).trans (earlier.exits bridge),
    later.submissions.trans earlier.submissions⟩

end Quiet

theorem exitStatus?_eq (host : Host σ) (bridge : BridgeId) :
    host.exitStatus? bridge = (host.bridges.map (·.exitStatus))[bridge]?.join := by
  unfold exitStatus?
  rw [List.getElem?_map]
  cases host.bridges[bridge]? with
  | none => rfl
  | some bridge => rfl

theorem exitStatus?_of_map
    (same : after.bridges.map (·.exitStatus) = before.bridges.map (·.exitStatus))
    (bridge : BridgeId) : after.exitStatus? bridge = before.exitStatus? bridge := by
  rw [exitStatus?_eq, exitStatus?_eq, same]

theorem submissions_of_journal (same : after.journal = before.journal) :
    after.submissions = before.submissions := by
  unfold submissions
  rw [same]

theorem quiet_of_map
    (exits : after.bridges.map (·.exitStatus) = before.bridges.map (·.exitStatus))
    (journal : after.journal = before.journal) : Quiet before after :=
  ⟨exitStatus?_of_map exits, submissions_of_journal journal⟩

theorem submissions_enter (host : Host σ) (entry : Entry) :
    (host.enter entry).submissions = host.submissions ++ entry.submission?.toList := by
  unfold submissions enter
  cases submitted : entry.submission? with
  | none => simp [submitted]
  | some submission => simp [submitted]

theorem quiet_enter {entry : Entry} (silent : entry.submission? = none) :
    Quiet host (host.enter entry) := by
  refine ⟨fun _ => rfl, ?_⟩
  rw [submissions_enter, silent]
  exact List.append_nil _

/-! ## The exit events of a conversation -/

/-- The exit event that an output is, if it is one and reaches the bridge. -/
def exitOf (bridge : BridgeId) (address : Address) (code : Int32) (argument : OutputArgument)
    (host : Host σ) : List Int32 :=
  if OutputKind.ofCode code = .exit ∧ host.bridgeAt? address = some bridge ∧
    bridge < host.bridges.length then [argument.status] else []

/-- What is seen after a request, if it comes back. -/
def seenAfter {α : Type} (request : Hosting σ α) (host : Host σ)
    (later : α → Host σ → List Int32) : List Int32 :=
  match request host with
  | .ok value after => later value after
  | .error _ _ => []

/-- The exit events on a bridge while a conversation is served. -/
def exitsOf {α : Type} (bridge : BridgeId) (handle : Handle) :
    Conversation α → Host σ → List Int32
  | .finished _, _ => []
  | .output code argument next, host =>
    exitOf bridge (.at handle) code argument host ++
      seenAfter (outputCallback (.at handle) code argument) host fun _ after =>
        exitsOf bridge handle next after
  | .input prompt next, host =>
    seenAfter (inputCallback (.at handle) prompt) host fun line after =>
      exitsOf bridge handle (next line) after
  | .readCell next, host => exitsOf bridge handle (next (host.cell? handle)) host
  | .writeCell value next, host => exitsOf bridge handle next (host.setCell handle value)
  | .signal next, host =>
    seenAfter raise host fun handled after => exitsOf bridge handle (next handled) after
  | .note entry next, host => exitsOf bridge handle next (host.enter (.noted handle entry))

/-- The exit events on a bridge while an instance answers a call. -/
def exitsDuring [Engine σ] (bridge : BridgeId) (handle : Handle) (request : Call)
    (host : Host σ) : List Int32 :=
  exitsOf bridge handle (Engine.respond host.engine handle request.symbol request.arguments)
    (host.enter (.called handle request))

/-- A computation during which a bridge sees these exit events: where it comes
back, the first of them has settled the status, unless it was settled before. -/
def Sees {α : Type} (bridge : BridgeId) (action : Hosting σ α) (host : Host σ)
    (events : List Int32) : Prop :=
  Hosting.Leads action host
    (fun _ after => after.exitStatus? bridge = (host.exitStatus? bridge).or events.head?)
    (fun _ _ => True)

namespace Sees

variable {α β : Type} {bridge : BridgeId}

theorem of_kept {action : Hosting σ α}
    (kept : Hosting.Leaves action host fun after =>
      after.exitStatus? bridge = host.exitStatus? bridge) : Sees bridge action host [] :=
  Hosting.Leads.mono kept (fun _ _ same => same.trans (Option.or_none ..).symm)
    fun _ _ _ => trivial

theorem bind {first : Hosting σ α} {next : α → Hosting σ β} {own : List Int32}
    {later : α → Host σ → List Int32} (seen : Sees bridge first host own)
    (onward : ∀ value after, Sees bridge (next value) after (later value after)) :
    Sees bridge (first >>= next) host (own ++ seenAfter first host later) := by
  unfold Sees at seen
  unfold Sees
  rw [Hosting.leads_bind]
  unfold Hosting.Leads at seen
  unfold Hosting.Leads seenAfter
  cases outcome : first host with
  | error halt middle => trivial
  | ok value middle =>
      rw [outcome] at seen
      refine Hosting.Leads.mono (onward value middle) ?_ fun _ _ => id
      intro result after settled
      rw [settled, seen, Option.or_assoc, List.head?_append]

end Sees

/-! ## Single requests -/

theorem display_exits (host : Host σ) (id : BridgeId) (kind : OutputKind) (payload : Bytes) :
    (host.display id kind payload).bridges.map (·.exitStatus) =
      host.bridges.map (·.exitStatus) := by
  unfold display
  cases found : host.bridges[id]? with
  | none => rfl
  | some bridge => exact map_setBridge (·.exitStatus) found rfl

theorem readLine_exits (host : Host σ) (id : BridgeId) (prompt : Bytes) :
    Hosting.Leaves (readLine id prompt) host fun after =>
      after.bridges.map (·.exitStatus) = host.bridges.map (·.exitStatus) := by
  unfold readLine Hosting.Leaves
  simp only [Hosting.leads_bind, Hosting.leads_get]
  cases found : host.bridges[id]? with
  | none => rfl
  | some bridge =>
      have kept : (bridge.nextLine prompt
          (bridge.cancel.bind fun counter => host.cell? counter.handle)).bridge.exitStatus =
          bridge.exitStatus :=
        congrArg Prod.fst (bridge.nextLine_keeps prompt _).2
      have same := map_setBridge (·.exitStatus) found kept
      simp only [Hosting.leads_bind, Hosting.leads_set]
      split
      · split
        · exact same
        · exact same
      · split
        · exact same
        · exact same

/-- An exit event is seen by its bridge and by no other. -/
theorem exitEvent_sees (host : Host σ) (id bridge : BridgeId) (status : Int32) :
    Sees bridge (exitEvent id status) host
      (if id = bridge ∧ bridge < host.bridges.length then [status] else []) := by
  rw [exitEvent_eq, Sees]
  simp only [Hosting.leads_bind, Hosting.leads_get]
  cases found : host.bridges[id]? with
  | none =>
      have elsewhere : ¬ (id = bridge ∧ bridge < host.bridges.length) := by
        rintro ⟨rfl, bound⟩
        exact absurd (List.getElem?_eq_none_iff.mp found) (Nat.not_le_of_lt bound)
      rw [if_neg elsewhere]
      exact (Option.or_none ..).symm
  | some old =>
      have bound := (List.getElem?_eq_some_iff.mp found).1
      have settled : ((host.setBridge id (old.exit status).1).say
          (old.exit status).2).exitStatus? bridge = (host.exitStatus? bridge).or
            (if id = bridge ∧ bridge < host.bridges.length then [status] else []).head? := by
        unfold exitStatus? say setBridge
        dsimp only
        by_cases same : id = bridge
        · subst bridge
          rw [List.getElem?_set_self bound, found, if_pos ⟨rfl, bound⟩]
          dsimp only [Option.bind]
          have kept : (old.exit status).1.exitStatus = some (old.exitStatus.getD status) := rfl
          rw [kept]
          cases old.exitStatus with
          | none => rfl
          | some earlier => rfl
        · rw [List.getElem?_set_ne same, if_neg (fun both => same both.1)]
          exact (Option.or_none ..).symm
      simp only [Hosting.leads_bind, Hosting.leads_set]
      split
      · trivial
      · exact settled

theorem outputCallback_sees (host : Host σ) (bridge : BridgeId) (address : Address)
    (code : Int32) (argument : OutputArgument) :
    Sees bridge (outputCallback address code argument) host
      (exitOf bridge address code argument host) := by
  unfold outputCallback Sees exitOf
  simp only [Hosting.leads_bind, Hosting.leads_get]
  cases routed : host.bridgeAt? address with
  | none =>
      rw [if_neg (by simp)]
      exact (Option.or_none ..).symm
  | some id =>
      have shown {kind : OutputKind} (other : kind ≠ .exit) (payload : Bytes) :
          (host.display id kind payload).exitStatus? bridge =
            (host.exitStatus? bridge).or (if kind = .exit ∧ some id = some bridge ∧
              bridge < host.bridges.length then [argument.status] else []).head? := by
        rw [if_neg (fun all => other all.1)]
        have same := exitStatus?_of_map (display_exits host id kind payload) bridge
        exact same.trans (Option.or_none ..).symm
      cases OutputKind.ofCode code with
      | exit =>
          refine Hosting.Leads.mono (exitEvent_sees host id bridge argument.status) ?_
            fun _ _ _ => trivial
          intro result after settled
          rw [settled]
          simp
      | formatted => exact shown (by simp) _
      | error => exact shown (by simp) _
      | log => exact shown (by simp) _
      | system => exact shown (by simp) _
      | file => exact shown (by simp) _
      | other code => exact shown (by simp) _

theorem inputCallback_sees (host : Host σ) (bridge : BridgeId) (address : Address)
    (prompt : Option Bytes) : Sees bridge (inputCallback address prompt) host [] := by
  apply Sees.of_kept
  unfold inputCallback Hosting.Leaves
  simp only [Hosting.leads_bind, Hosting.leads_get]
  cases host.bridgeAt? address with
  | none => rfl
  | some id =>
      simp only [Hosting.leads_bind, Hosting.leads_pure]
      exact (readLine_exits host id _).mono fun _ same => exitStatus?_of_map same bridge

theorem raise_bridges (host : Host σ) :
    Hosting.Leaves raise host fun after => after.bridges = host.bridges := by
  have bumped (other : Handle) : (host.bump other).2.bridges = host.bridges := by
    unfold bump
    cases host.cell? other with
    | none => rfl
    | some value => rfl
  have delivered : host.deliver.2.bridges = host.bridges := by
    unfold deliver
    cases host.target with
    | none => rfl
    | some armed => exact bumped armed
  unfold raise
  rw [Hosting.leaves_get_bind]
  cases host.handler with
  | true => exact delivered
  | false =>
      cases host.undisposed with
      | withheld => rfl
      | fatal => rfl

theorem raise_sees (host : Host σ) (bridge : BridgeId) : Sees bridge raise host [] :=
  Sees.of_kept ((raise_bridges host).mono fun _ same =>
    exitStatus?_of_map (congrArg (List.map _) same) bridge)

/-! ## A whole call -/

/-- The induction is on the conversation: only its exit events count, and of
those only the first one, if the bridge has not seen one before. -/
theorem converse_sees {α : Type} (bridge : BridgeId) (conversation : Conversation α)
    (host : Host σ) :
    Sees bridge (converse handle conversation) host (exitsOf bridge handle conversation host) := by
  induction conversation generalizing host with
  | finished result => exact (Option.or_none ..).symm
  | output code argument next inductionHypothesis =>
      exact (outputCallback_sees host bridge (.at handle) code argument).bind
        fun _ after => inductionHypothesis after
  | input prompt next inductionHypothesis =>
      exact (inputCallback_sees host bridge (.at handle) prompt).bind
        fun line after => inductionHypothesis line after
  | readCell next inductionHypothesis => exact inductionHypothesis _ host
  | writeCell value next inductionHypothesis => exact inductionHypothesis (host.setCell handle value)
  | signal next inductionHypothesis =>
      exact (raise_sees host bridge).bind fun handled after => inductionHypothesis handled after
  | note entry next inductionHypothesis =>
      exact inductionHypothesis (host.enter (.noted handle entry))

theorem call_sees [Engine σ] (bridge : BridgeId) (request : Call) (host : Host σ) :
    Sees bridge (call handle request) host (exitsDuring bridge handle request host) :=
  leads_call.mpr (converse_sees bridge _ _)

/-! ## Submissions -/

/-- Requests of an engine leave notes in the journal and nothing else. -/
theorem converse_submissions {α : Type} (conversation : Conversation α) (host : Host σ) :
    Hosting.Leaves (converse handle conversation) host fun after =>
      after.submissions = host.submissions := by
  have unwritten {β : Type} {request : Hosting σ β} {start : Host σ}
      (served : ∀ handle, Hosting.Leaves request start (Served handle start)) :
      Hosting.Leaves request start fun after => after.submissions = start.submissions :=
    (Hosting.Leaves.all served).mono fun _ all => submissions_of_journal (Served.journal_eq all)
  exact converse_leaves (fun before after => after.submissions = before.submissions)
    (fun _ => rfl) (fun earlier later => later.trans earlier)
    (fun host _ _ => unwritten fun _ => outputCallback_served host _ _ _)
    (fun host _ => unwritten fun _ => inputCallback_served host _ _)
    (fun _ _ => rfl)
    (fun host => unwritten fun _ => raise_served host)
    (fun _ _ => (quiet_enter rfl).submissions)
    conversation host

theorem readLine_quiet (host : Host σ) (id : BridgeId) (prompt : Bytes) :
    Hosting.Leaves (readLine id prompt) host (Quiet host) := by
  have served (handle : Handle) : Hosting.Leaves (readLine id prompt) host (Served handle host) :=
    readLine_served host id prompt
  apply ((readLine_exits host id prompt).and (Hosting.Leaves.all served)).mono
  rintro after ⟨exits, all⟩
  exact quiet_of_map exits (Served.journal_eq all)

/-- A call submits its own sentence, whatever the engine does with it. -/
theorem call_submissions [Engine σ] (request : Call) (host : Host σ) :
    Hosting.Leaves (call handle request) host fun after =>
      after.submissions = host.submissions ++ (request.sentence?.map (handle, ·)).toList := by
  have entered : (host.enter (.called handle request)).submissions =
      host.submissions ++ (request.sentence?.map (handle, ·)).toList := by
    rw [submissions_enter]
    cases request with
    | _ => rfl
  refine leads_call.mpr (Hosting.Leads.mono (converse_submissions _ _) ?_ ?_)
  · intro result after kept
    exact kept.trans entered
  · intro halt after kept
    exact kept.trans entered

/-! ## What is quiet -/

theorem say_quiet (host : Host σ) (records : List Log.Record) : Quiet host (host.say records) :=
  ⟨fun _ => rfl, rfl⟩

theorem takeCreation_quiet (host : Host σ) (creation : Creation) :
    Hosting.Leaves (takeCreation creation) host (Quiet host) := by
  cases creation with
  | fresh cell => exact ⟨fun _ => rfl, (quiet_enter rfl).submissions⟩
  | again handle => exact ⟨fun _ => rfl, (quiet_enter rfl).submissions⟩
  | nothing => exact quiet_enter rfl
  | unwound => exact ⟨fun _ => rfl, rfl⟩

/-- Nothing is written or read on a bridge, and nothing is submitted. -/
structure Still (before after : Host σ) : Prop where
  bridges : after.bridges = before.bridges
  submissions : after.submissions = before.submissions

namespace Still

theorem trans (earlier : Still first second) (later : Still second third) : Still first third :=
  ⟨later.bridges.trans earlier.bridges, later.submissions.trans earlier.submissions⟩

theorem quiet (still : Still before after) : Quiet before after :=
  ⟨exitStatus?_of_map (congrArg (List.map _) still.bridges), still.submissions⟩

end Still

theorem unregister_still (host : Host σ) (route : Route) : Still host (host.unregister route) := by
  unfold unregister
  split
  · exact ⟨rfl, rfl⟩
  · exact ⟨rfl, rfl⟩

theorem disarm_still (host : Host σ) (counter : Counter) : Still host (host.disarm counter) := by
  unfold disarm
  split
  · exact ⟨rfl, rfl⟩
  · exact ⟨rfl, rfl⟩

section Silence

variable [Engine σ]

theorem reap_still (host : Host σ) (id : SessionId) : Still host (host.reap id) := by
  apply reap_keeps (Still host)
  · intro session found
    have freed : Quiet host (host.enter (.freed session.handle)) := quiet_enter rfl
    exact ⟨rfl, freed.submissions⟩
  · exact ⟨rfl, rfl⟩

theorem setCancelTarget_quiet (host : Host σ) (id : BridgeId) (counter : Option Counter) :
    Quiet host (host.setCancelTarget id counter) := by
  apply setCancelTarget_keeps (Quiet host)
  · intro bridge found
    exact quiet_of_map (map_setBridge (·.exitStatus) found rfl) rfl
  · intro next session quiet
    exact quiet.trans (reap_still next session).quiet
  · exact Quiet.refl host

theorem attach_quiet (host : Host σ) (bridge : BridgeId) (session : SessionId)
    (counter interrupt : Option Counter) :
    Quiet host (host.attach bridge session counter interrupt) := by
  apply attach_keeps (Quiet host)
  · intro next records quiet
    exact quiet.trans (say_quiet next records)
  · intro next quiet
    exact quiet.trans (setCancelTarget_quiet next bridge counter)
  · intro next quiet held _
    exact quiet.trans ⟨fun _ => rfl, rfl⟩
  · exact Quiet.refl host

theorem acquire_quiet (host : Host σ) : Hosting.Leaves acquire host (Quiet host) := by
  unfold Hosting.Leaves Hosting.Leads
  cases prepared : host.registry.prepare.1 with
  | error error =>
      rcases acquire_of_refused prepared with ⟨records, outcome⟩
      rw [outcome]
      exact ⟨fun _ => rfl, rfl⟩
  | ok ready =>
      rcases acquire_of_ready prepared with ⟨records, outcome⟩
      have asked : Quiet host
          ({ host with
              registry := host.registry.prepare.2
              engine := (Engine.create host.engine host.cells.size).2 }.say records) :=
        ⟨fun _ => rfl, rfl⟩
      rw [outcome]
      exact (takeCreation_quiet _ _).mono fun _ created => asked.trans created

/-- Letting go of a driver happens behind the console's back. -/
theorem dismiss_still (host : Host σ) (driver : Driver) : Still host (host.dismiss driver) := by
  have dropped (next : Host σ) (active : Active) :
      Still next ((next.reap active.session).unregister active.route) :=
    (reap_still next active.session).trans (unregister_still _ active.route)
  have uninstalled : Still host host.uninstall := ⟨rfl, rfl⟩
  unfold dismiss
  cases driver.active with
  | none => exact ⟨rfl, rfl⟩
  | some active =>
      dsimp only
      cases active.interrupt with
      | none => exact dropped host active
      | some counter =>
          have disarmed := (uninstalled.trans (dropped _ active)).trans (disarm_still _ counter)
          exact disarmed.trans (reap_still _ counter.session)

end Silence

end Host

end SessionHost
