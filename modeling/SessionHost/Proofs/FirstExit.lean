import SessionHost.Engine.Recording
import SessionHost.Proofs.DriverStates

namespace SessionHost

/-!
# The first exit event

Exit events can come to a bridge at any time and any number of times: from the bootstrap
sentence, from within another sentence, before a driver is started and after it has ended.
The first one settles the exit status of the bridge for good.  The hook is invoked for each
of them, and when it is, the status has been settled already.

The state of a driver is read off two things, its session and that status.  A driver that
has a session keeps it, and a status that is settled stays, so whatever else happens the
state of a driver never goes back.
-/

namespace ConsoleEvent

/-- The status of an exit event. -/
def exit? : ConsoleEvent → Option Int32
  | exited status => some status
  | _ => none

/-- The statuses of all exit events, in order. -/
def statuses (events : List ConsoleEvent) : List Int32 :=
  events.filterMap exit?

theorem statuses_cons (event : ConsoleEvent) (events : List ConsoleEvent) :
    statuses (event :: events) = event.exit?.toList ++ statuses events := by
  rw [statuses, List.filterMap_cons]
  cases event.exit? with
  | none => rfl
  | some status => rfl

end ConsoleEvent

open ConsoleEvent (statuses statuses_cons)

namespace Bridge

/-- One invocation of an exit hook. -/
structure HookCall where
  status : Int32
  /-- The exit status of the bridge when the hook is invoked. -/
  recorded : Option Int32
deriving DecidableEq, Repr

/-- The invocations of the hook of a bridge, which finds the bridge with the event already
recorded. -/
def hookCalls : Bridge → List ConsoleEvent → List HookCall
  | _, [] => []
  | bridge, .exited status :: later =>
    let recorded := (bridge.recordExit status).1
    ⟨status, recorded.exitStatus⟩ :: hookCalls (recorded.invokeHook status) later
  | bridge, event :: later => hookCalls (bridge.meet event) later

variable {bridge : Bridge}

theorem recordExit_exitStatus (bridge : Bridge) (status : Int32) :
    (bridge.recordExit status).1.exitStatus = bridge.exitStatus.or (some status) := by
  have settled : (bridge.recordExit status).1.exitStatus = some (bridge.exitStatus.getD status) :=
    rfl
  rw [settled]
  cases bridge.exitStatus with
  | none => rfl
  | some first => rfl

theorem meet_exitStatus (bridge : Bridge) (event : ConsoleEvent) :
    (bridge.meet event).exitStatus = bridge.exitStatus.or event.exit? := by
  cases event with
  | shown payload => exact (Option.or_none ..).symm
  | exited status => exact bridge.recordExit_exitStatus status
  | asked prompt =>
      exact (congrArg Prod.fst (bridge.nextLine_keeps prompt none).2).trans
        (Option.or_none ..).symm
  | bound cancel => exact (Option.or_none ..).symm

/-- The first exit event settles the status, unless it was settled before. -/
theorem exitStatus_foldl_meet (events : List ConsoleEvent) (bridge : Bridge) :
    (events.foldl meet bridge).exitStatus = bridge.exitStatus.or (statuses events).head? := by
  induction events generalizing bridge with
  | nil => exact (Option.or_none ..).symm
  | cons event rest inductionHypothesis =>
      rw [List.foldl_cons, inductionHypothesis, meet_exitStatus, Option.or_assoc, statuses_cons,
        List.head?_append, Option.head?_toList]

theorem meet_hooked (recording : bridge.hook = .record) (event : ConsoleEvent) :
    (bridge.meet event).hooked = event.exit?.toList ++ bridge.hooked := by
  cases event with
  | shown payload => rfl
  | exited status => exact if_pos recording
  | asked prompt => exact congrArg Prod.snd (bridge.nextLine_keeps prompt none).2
  | bound cancel => rfl

/-- A recording hook has seen every exit event once, with its own status. -/
theorem hooked_foldl_meet (recording : bridge.hook = .record) (events : List ConsoleEvent) :
    (events.foldl meet bridge).hooked = (statuses events).reverse ++ bridge.hooked := by
  induction events generalizing bridge with
  | nil => rfl
  | cons event rest inductionHypothesis =>
      have still : (bridge.meet event).hook = .record := (bridge.meet_hook event).trans recording
      rw [List.foldl_cons, inductionHypothesis still, meet_hooked recording, statuses_cons,
        List.reverse_append, List.append_assoc]
      cases event.exit? with
      | none => rfl
      | some status => rfl

/-- Each exit event invokes the hook once and in its turn, and by then the status of the
first one is recorded. -/
theorem hookCalls_eq (events : List ConsoleEvent) (bridge : Bridge) :
    bridge.hookCalls events =
      (statuses events).map (⟨·, bridge.exitStatus.or (statuses events).head?⟩) := by
  induction events generalizing bridge with
  | nil => rfl
  | cons event rest inductionHypothesis =>
      have onward (quiet : event.exit? = none) :
          (bridge.meet event).hookCalls rest =
            (statuses (event :: rest)).map
              (⟨·, bridge.exitStatus.or (statuses (event :: rest)).head?⟩) := by
        have same : statuses (event :: rest) = statuses rest := by
          rw [statuses_cons, quiet]
          rfl
        rw [inductionHypothesis, meet_exitStatus, quiet, Option.or_none, same]
      cases event with
      | shown payload => exact onward rfl
      | exited status =>
          have later := inductionHypothesis ((bridge.recordExit status).1.invokeHook status)
          have kept : ((bridge.recordExit status).1.invokeHook status).exitStatus =
              (bridge.recordExit status).1.exitStatus := rfl
          rw [kept, recordExit_exitStatus, Option.or_assoc] at later
          rw [hookCalls, later, recordExit_exitStatus]
          rfl
      | asked prompt => exact onward rfl
      | bound cancel => exact onward rfl

end Bridge

namespace Host

variable {σ : Type} {host : Host σ}

/-! ## The hook -/

/-- By the time the hook is invoked there is a status, and it is that of the first event. -/
theorem recordExit_records {id : BridgeId} {bridge : Bridge}
    (found : host.bridges[id]? = some bridge) (status : Int32) :
    ∃ after, recordExit id status host = .ok () after ∧
      after.exitStatus? id = bridge.exitStatus.or (some status) := by
  let recorded := (bridge.recordExit status).1
  have reached : ((host.setBridge id recorded).say (bridge.recordExit status).2).bridges[id]? =
      some recorded := getElem?_setBridge found _
  refine ⟨(host.setBridge id recorded).say (bridge.recordExit status).2, ?_, ?_⟩
  · unfold recordExit
    rw [Hosting.get_bind, found]
    rfl
  · rw [exitStatus?, reached]
    exact bridge.recordExit_exitStatus status

/-! ## Runs -/

section Runs

variable [Engine σ]

/-- A status that is settled stays. -/
theorem exitStatus?_afterRequests {id : BridgeId} {status : Int32}
    (settled : host.exitStatus? id = some status) (requests : List ConsoleRequest) :
    (host.afterRequests requests).exitStatus? id = some status := by
  unfold exitStatus? at settled ⊢
  rw [bridge_afterRequests]
  cases found : host.bridges[id]? with
  | none =>
      rw [found] at settled
      cases settled
  | some bridge =>
      rw [found] at settled
      have kept : bridge.exitStatus = some status := settled
      rw [Option.map_some, Option.bind_some, Bridge.exitStatus_foldl_meet, kept]
      rfl

/-- From one moment of a run to a later one, a driver that is kept under a name goes on. -/
theorem states_onward {name : String} {driver : Driver}
    (found : host.drivers.find? name = some driver) (earlier later : List ConsoleRequest) :
    ∃ first last,
      (host.afterRequests earlier).drivers.find? name = some first ∧
      (host.afterRequests (earlier ++ later)).drivers.find? name = some last ∧
      ((host.afterRequests earlier).stateOf first).Onward
        ((host.afterRequests (earlier ++ later)).stateOf last) := by
  rcases afterRequests_drives ⟨driver, found, Driver.Becomes.refl driver⟩ earlier with
    ⟨first, here, _⟩
  rcases afterRequests_drives ⟨first, here, Driver.Becomes.refl first⟩ later with
    ⟨last, there, becomes⟩
  rw [afterRequests_append]
  exact ⟨first, last, here, there,
    stateOf_onward becomes fun _ settled => exitStatus?_afterRequests settled later⟩

/-- What exit events do to a bridge during a run. -/
structure Settles (id : BridgeId) (bridge : Bridge) (requests : List ConsoleRequest)
    (host : Host σ) : Prop where
  reached : (host.afterRequests requests).bridges[id]? =
    some ((host.eventsOn id requests).foldl Bridge.meet bridge)
  /-- At any moment the status is that of the first exit event there was. -/
  status : ∀ earlier later, host.eventsOn id requests = earlier ++ later →
    (earlier.foldl Bridge.meet bridge).exitStatus = bridge.exitStatus.or (statuses earlier).head?
  /-- The hook is invoked for all of them, each with its own status, and it finds the status
  of the first recorded. -/
  calls : bridge.hookCalls (host.eventsOn id requests) =
    (statuses (host.eventsOn id requests)).map
      (⟨·, bridge.exitStatus.or (statuses (host.eventsOn id requests)).head?⟩)
  /-- A recording hook has kept them all, the latest first. -/
  kept : bridge.hook = .record →
    ((host.eventsOn id requests).foldl Bridge.meet bridge).hooked =
      (statuses (host.eventsOn id requests)).reverse ++ bridge.hooked
  /-- The process goes on past every request, or it ends with the exit event of a terminating
  hook, and with the status of this event. -/
  ends : ∀ earlier request later, requests = earlier ++ request :: later →
    Tells (attend request) (host.afterRequests earlier)
      ((host.afterRequests earlier).happenings request)

/-- Over every run of callbacks, requests for input, drivers and calls, the exit status of a
bridge is settled by its first exit event and never changes again.  The word of an exit
callback stands for the status that its low 32 bits are.  The hook is invoked once for each
exit event, in order, with its status, and after the first status has been recorded.  And no
driver ever goes back in its state. -/
theorem exits_settle_once {id : BridgeId} {bridge : Bridge}
    (found : host.bridges[id]? = some bridge) (requests : List ConsoleRequest) :
    Settles id bridge requests host ∧
      (∀ word : Int64, ConsoleEvent.ofOutput 5 (.word word) = .exited word.toInt32 ∧
        word.toInt32.toInt = word.toInt.bmod (Nat.pow 2 32)) ∧
      (∀ status, exitEvent id status =
          (do recordExit id status; invokeHook id status : Hosting σ Unit) ∧
        ∃ after, recordExit id status host = .ok () after ∧
          after.exitStatus? id = bridge.exitStatus.or (some status)) ∧
      ∀ name driver, host.drivers.find? name = some driver →
        ∀ earlier later, requests = earlier ++ later → ∃ first last,
          (host.afterRequests earlier).drivers.find? name = some first ∧
          (host.afterRequests requests).drivers.find? name = some last ∧
          ((host.afterRequests earlier).stateOf first).Onward
            ((host.afterRequests requests).stateOf last) := by
  refine ⟨?_, fun word => ⟨rfl, word.toInt_toInt32⟩,
    fun status => ⟨rfl, recordExit_records found status⟩, ?_⟩
  · exact {
      reached := by
        rw [bridge_afterRequests, found]
        rfl
      status := fun earlier _ _ => Bridge.exitStatus_foldl_meet earlier bridge
      calls := Bridge.hookCalls_eq _ bridge
      kept := fun recording => Bridge.hooked_foldl_meet recording _
      ends := fun earlier request _ _ => attend_tells (host.afterRequests earlier) request }
  · rintro name driver kept earlier later rfl
    exact states_onward kept earlier later

end Runs

/-- Exit events from a bootstrap sentence, from a client, by way of a callback and from a line. -/
def fourExits : List ConsoleRequest :=
  [.start "d" ⟨.noProfile, [], ""⟩, .exit 0 7, .output (.at 0) 5 (.word 0xFFFFFFFE), .step "d"]

/-- A console with a recording hook, and a driver on it that was not started. -/
theorem four_exits :
    ∃ first host : Host Recording.Recorder,
      Host.init
          { reactions := [(Bootstrap.sentence ⟨.noProfile, [], ""⟩, .exit 3), ("a", .exit 9)] }
          Memory.machine {} [Bridge.onStreams { script := [.chunk [97, 10]] } {} false {} .record] =
            .ok first ∧
        host = first.after (.driver 0 { prompt := [62] } "d") ∧
        host.bridges[0]? =
          some (Bridge.onStreams { script := [.chunk [97, 10]] } {} false {} .record) ∧
        host.drivers.find? "d" = some { bridge := 0, options := { prompt := [62] } } ∧
        statuses (host.eventsOn 0 fourExits) = [3, 7, -2, 9] :=
  ⟨_, _, rfl, rfl, rfl, rfl, by decide +kernel⟩

/-- The first of four exit events settles the status, the hook has seen all four of them, and
the driver has gone from the initial state to its final one. -/
theorem exits_settle_once_of_four :
    ∃ (host : Host Recording.Recorder) (bridge last : Bridge) (driver : Driver),
      host.bridges[0]? = some bridge ∧ Settles 0 bridge fourExits host ∧
        statuses (host.eventsOn 0 fourExits) = [3, 7, -2, 9] ∧
        (host.afterRequests fourExits).bridges[0]? = some last ∧
        last.exitStatus = some 3 ∧ last.hooked = [9, -2, 7, 3] ∧
        bridge.hookCalls (host.eventsOn 0 fourExits) =
          [⟨3, some 3⟩, ⟨7, some 3⟩, ⟨-2, some 3⟩, ⟨9, some 3⟩] ∧
        host.drivers.find? "d" = some driver ∧ host.stateOf driver = .init ∧
        ∃ later, (host.afterRequests fourExits).drivers.find? "d" = some later ∧
          DriverState.Onward (host.stateOf driver) ((host.afterRequests fourExits).stateOf later) := by
  rcases four_exits with ⟨first, host, _, _, found, kept, exits⟩
  rcases exits_settle_once found fourExits with ⟨settles, _, _, onward⟩
  rcases onward "d" _ kept [] fourExits rfl with ⟨driver, later, before, behind, goesOn⟩
  have same : some _ = some driver := kept.symm.trans before
  cases same
  have status := settles.status _ [] (List.append_nil _).symm
  have hooked := settles.kept rfl
  have calls := settles.calls
  rw [exits] at status hooked calls
  have initial : host.stateOf { bridge := 0, options := { prompt := [62] } } = .init := by
    rw [stateOf, exitStatus?, found]
    rfl
  exact ⟨host, _, _, _, found, settles, exits, settles.reached, status, hooked, calls, kept, initial,
    later, behind, goesOn⟩

end Host

end SessionHost
