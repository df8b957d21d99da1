import SessionHost.Proofs.Custody

namespace SessionHost

/-!
# Requests for a break

Three things happen to break cells.  An instance is made with a cell or without
one, its engine writes to its cell, and requests for a break add to it.  Nothing
else does anything to a cell.

A request may come by a session id, through a counter, through a bridge whose input
has ended, or with a signal.  Wherever it comes from, it is addressed to one
instance, and here it is read off the state before it is carried out whose instance
that is.  The cells afterwards are those from before, with these events carried out
on them one after another.
-/

/-- What happens to the break cell of an instance. -/
inductive CellEvent where
  /-- The instance is made, with the first value of its cell if it has one. -/
  | made (handle : Handle) (cell : Option UInt8)
  | written (handle : Handle) (value : UInt8)
  | requested (handle : Handle)
deriving DecidableEq, Repr

namespace CellEvent

/-- The cells of all instances after an event. -/
def act (cells : Array (Option UInt8)) : CellEvent → Array (Option UInt8)
  | made _ cell => cells.push cell
  | written handle value => cells.modify handle (·.map fun _ => value)
  | requested handle => cells.modify handle (·.map (· + 1))

/-- New instances are numbered one after another, from the given number on. -/
def Numbered : Nat → List CellEvent → Prop
  | _, [] => True
  | next, made handle _ :: later => handle = next ∧ Numbered (next + 1) later
  | next, written _ _ :: later => Numbered next later
  | next, requested _ :: later => Numbered next later

/-- The instance whose cell an event is about. -/
def subject : CellEvent → Handle
  | made handle _ => handle
  | written handle _ => handle
  | requested handle => handle

theorem size_act (cells : Array (Option UInt8)) (event : CellEvent) :
    cells.size ≤ (act cells event).size := by
  cases event with
  | made handle cell =>
      rw [act, Array.size_push]
      exact Nat.le_succ _
  | written handle value => exact Nat.le_of_eq Array.size_modify.symm
  | requested handle => exact Nat.le_of_eq Array.size_modify.symm

theorem size_foldl_act (events : List CellEvent) (cells : Array (Option UInt8)) :
    cells.size ≤ (events.foldl act cells).size := by
  induction events generalizing cells with
  | nil => exact Nat.le_refl _
  | cons event rest inductionHypothesis =>
      exact Nat.le_trans (size_act cells event) (inductionHypothesis (act cells event))

theorem numbered_cons {cells : Array (Option UInt8)} {event : CellEvent} {later : List CellEvent} :
    Numbered cells.size (event :: later) ↔
      Numbered cells.size [event] ∧ Numbered (act cells event).size later := by
  cases event with
  | made handle cell =>
      rw [act, Array.size_push]
      exact and_congr_left' (and_iff_left trivial).symm
  | written handle value =>
      rw [act, Array.size_modify]
      exact (and_iff_right trivial).symm
  | requested handle =>
      rw [act, Array.size_modify]
      exact (and_iff_right trivial).symm

theorem numbered_append {earlier later : List CellEvent} {cells : Array (Option UInt8)} :
    Numbered cells.size (earlier ++ later) ↔
      Numbered cells.size earlier ∧ Numbered (earlier.foldl act cells).size later := by
  induction earlier generalizing cells with
  | nil => exact (and_iff_right trivial).symm
  | cons event rest inductionHypothesis =>
      have here : Numbered cells.size (event :: rest) ↔ _ := numbered_cons
      rw [List.cons_append, numbered_cons, inductionHypothesis, here]
      exact and_assoc.symm

end CellEvent

open CellEvent (act Numbered)

/-- The events lead from the one state of the cells to the other. -/
structure CellsFollow (events : List CellEvent) (before after : Array (Option UInt8)) : Prop where
  cells : after = events.foldl act before
  numbered : Numbered before.size events

/-- No requests add nothing. -/
theorem map_add_zero (cell : Option UInt8) : cell.map (· + .ofNat 0) = cell := by
  cases cell with
  | none => rfl
  | some value => exact congrArg some (UInt8.add_zero value)

/-- What is added in two portions. -/
theorem map_add_add (cell : Option UInt8) (first second : Nat) :
    (cell.map (· + .ofNat first)).map (· + .ofNat second) = cell.map (· + .ofNat (first + second)) := by
  have added (value : UInt8) :
      value + .ofNat first + .ofNat second = value + .ofNat (first + second) := by
    rw [UInt8.ofNat_add, UInt8.add_assoc]
  rw [Option.map_map]
  exact congrArg (cell.map ·) (funext added)

namespace CellsFollow

variable {earlier later : List CellEvent} {first second third : Array (Option UInt8)}

theorem refl (cells : Array (Option UInt8)) : CellsFollow [] cells cells :=
  ⟨rfl, trivial⟩

theorem append (before : CellsFollow earlier first second) (after : CellsFollow later second third) :
    CellsFollow (earlier ++ later) first third := by
  refine ⟨?_, CellEvent.numbered_append.mpr ⟨before.numbered, ?_⟩⟩
  · rw [List.foldl_append, ← before.cells]
    exact after.cells
  · rw [← before.cells]
    exact after.numbered

theorem written (cells : Array (Option UInt8)) (handle : Handle) (value : UInt8) :
    CellsFollow [.written handle value] cells (cells.modify handle (·.map fun _ => value)) :=
  ⟨rfl, trivial⟩

theorem made (cells : Array (Option UInt8)) (cell : Option UInt8) :
    CellsFollow [.made cells.size cell] cells (cells.push cell) :=
  ⟨rfl, rfl, trivial⟩

end CellsFollow

namespace Host

variable {σ : Type} {host : Host σ} {handle : Handle}

/-- No cell is touched. -/
def Untouched (before after : Host σ) : Prop :=
  after.cells = before.cells

/-- A computation during which these events happen to the cells, however it ends. -/
def Recounts {α : Type} (action : Hosting σ α) (host : Host σ) (events : List CellEvent) : Prop :=
  Hosting.Leaves action host fun after => CellsFollow events host.cells after.cells

/-- What happens after a computation, if it comes back. -/
def ensuing {α β : Type} (action : Hosting σ α) (host : Host σ)
    (later : α → Host σ → List β) : List β :=
  match action host with
  | .ok value after => later value after
  | .error _ _ => []

namespace Recounts

variable {α β : Type} {own : List CellEvent}

theorem of_untouched {action : Hosting σ α}
    (untouched : Hosting.Leaves action host (Untouched host)) : Recounts action host [] := by
  apply untouched.mono
  intro after same
  rw [same]
  exact CellsFollow.refl host.cells

theorem bind {first : Hosting σ α} {next : α → Hosting σ β} {later : α → Host σ → List CellEvent}
    (recounts : Recounts first host own)
    (onward : ∀ value after, Recounts (next value) after (later value after)) :
    Recounts (first >>= next) host (own ++ ensuing first host later) := by
  unfold Recounts Hosting.Leaves at *
  rw [Hosting.leads_bind]
  unfold Hosting.Leads at recounts
  unfold Hosting.Leads ensuing
  cases outcome : first host with
  | error halt middle =>
      rw [outcome] at recounts
      dsimp only
      rw [List.append_nil]
      exact recounts
  | ok value middle =>
      rw [outcome] at recounts
      exact Hosting.Leads.mono (onward value middle) (fun _ _ => recounts.append)
        fun _ _ => recounts.append

/-- What comes after the events may still do anything but touch the cells. -/
theorem bind_untouched {first : Hosting σ α} {next : α → Hosting σ β}
    (recounts : Recounts first host own)
    (onward : ∀ value after, Hosting.Leaves (next value) after (Untouched after)) :
    Recounts (first >>= next) host own := by
  have followed : Hosting.Leaves first host fun after => CellsFollow own host.cells after.cells :=
    recounts
  apply followed.bind
  intro value after follows
  apply (onward value after).mono
  intro last same
  rw [same]
  exact follows

end Recounts

/-! ## Requests that come from a client -/

/-- A cell that is not there is not changed. -/
theorem modify_of_bare {cells : Array (Option UInt8)} (bare : (cells[handle]?).join = none)
    (change : UInt8 → UInt8) : cells.modify handle (·.map change) = cells := by
  apply Array.ext_getElem?
  intro other
  rw [Array.getElem?_modify]
  split
  · next same =>
      subst other
      cases found : cells[handle]? with
      | none => rfl
      | some cell =>
          rw [found] at bare
          cases bare
          rfl
  · rfl

/-- A change of a cell is a change to what is computed from its value. -/
theorem modify_of_celled {cells : Array (Option UInt8)} {value : UInt8}
    (celled : (cells[handle]?).join = some value) (change : UInt8 → UInt8) :
    cells.modify handle (·.map change) = cells.modify handle (·.map fun _ => change value) := by
  apply Array.ext_getElem?
  intro other
  rw [Array.getElem?_modify, Array.getElem?_modify]
  split
  · next same =>
      subst other
      rw [Option.join_eq_some_iff.mp celled]
      rfl
  · rfl

theorem foldl_requested (cells : Array (Option UInt8)) (handle : Handle) (times : Nat) :
    (List.replicate times (.requested handle)).foldl act cells =
      cells.modify handle (·.map (· + .ofNat times)) := by
  induction times generalizing cells with
  | zero =>
      apply Array.ext_getElem?
      intro other
      rw [Array.getElem?_modify]
      split
      · exact (congrArg (cells[other]?.map ·) (funext map_add_zero)).trans Option.map_id' |>.symm
      · rfl
  | succ times inductionHypothesis =>
      rw [List.replicate_succ, List.foldl_cons, inductionHypothesis]
      apply Array.ext_getElem?
      intro other
      unfold act
      rw [Array.getElem?_modify, Array.getElem?_modify, Array.getElem?_modify]
      split
      · rw [Option.map_map]
        rw [Nat.add_comm]
        exact congrArg (cells[other]?.map ·) (funext fun cell => map_add_add cell 1 times)
      · rfl

theorem numbered_requested (next : Nat) (handle : Handle) (times : Nat) :
    Numbered next (List.replicate times (.requested handle)) := by
  induction times with
  | zero => trivial
  | succ times inductionHypothesis => exact inductionHypothesis

theorem CellsFollow.requested (cells : Array (Option UInt8)) (handle : Handle) (times : Nat) :
    CellsFollow (.replicate times (.requested handle)) cells
      (cells.modify handle (·.map (· + .ofNat times))) :=
  ⟨(foldl_requested cells handle times).symm, numbered_requested _ handle times⟩

theorem bumpTimes_cells (times : Nat) (host : Host σ) (handle : Handle) :
    (host.bumpTimes times handle).2.cells =
      host.cells.modify handle (·.map (· + .ofNat times)) := by
  unfold bumpTimes
  cases celled : host.cell? handle with
  | none => exact (modify_of_bare celled _).symm
  | some value =>
      dsimp only
      rw [modify_of_celled celled]
      split
      · next none =>
          subst none
          rw [← modify_of_celled celled (· + .ofNat 0)]
          exact foldl_requested host.cells handle 0
      · rfl

theorem bumpTimes_follows (times : Nat) (host : Host σ) (handle : Handle) :
    CellsFollow (.replicate times (.requested handle)) host.cells
      (host.bumpTimes times handle).2.cells := by
  rw [bumpTimes_cells]
  exact CellsFollow.requested host.cells handle times

theorem bump_follows (host : Host σ) (handle : Handle) :
    CellsFollow [.requested handle] host.cells (host.bump handle).2.cells := by
  rw [← bumpTimes_one]
  exact bumpTimes_follows 1 host handle

/-- The request that a signal makes of the armed target. -/
def delivery (host : Host σ) : List CellEvent :=
  host.target.toList.map .requested

theorem deliver_follows (host : Host σ) :
    CellsFollow host.delivery host.cells host.deliver.2.cells := by
  unfold delivery deliver
  cases host.target with
  | none => exact CellsFollow.refl host.cells
  | some armed => exact bump_follows host armed

/-- The request that a raised signal makes, which a handler has to take. -/
def raising (host : Host σ) : List CellEvent :=
  if host.handler then host.delivery else []

theorem raise_recounts (host : Host σ) : Recounts raise host host.raising := by
  unfold raising raise Recounts
  rw [Hosting.leaves_get_bind]
  cases host.handler with
  | true => exact deliver_follows host
  | false =>
      cases host.undisposed with
      | withheld => exact CellsFollow.refl host.cells
      | fatal => exact CellsFollow.refl host.cells

/-- The request by a session id, which has to be that of a live session. -/
def breakById (host : Host σ) (raw : Int) : List CellEvent :=
  match host.registry.lookup raw with
  | .error _ => []
  | .ok id => (host.registry.sessions[id]?.map (CellEvent.requested ·.handle)).toList

theorem incrementBreak_follows (host : Host σ) (raw : Int) :
    CellsFollow (host.breakById raw) host.cells (host.incrementBreak raw).2.cells := by
  unfold breakById incrementBreak resolve
  cases host.registry.lookup raw with
  | error error => exact CellsFollow.refl host.cells
  | ok id =>
      dsimp only
      cases host.registry.sessions[id]? with
      | none => exact CellsFollow.refl host.cells
      | some session =>
          dsimp only
          cases celled : host.cell? session.handle with
          | none =>
              -- A request to an instance without a cell comes to nothing.
              have followed := bump_follows host session.handle
              unfold bump at followed
              rw [celled] at followed
              exact followed
          | some value => exact bump_follows host session.handle

end Host

/-! ## Requests that come from a console -/

/-- How often the input ends before it gives a line, in so many attempts to read
one.  A fault counts as an end. -/
def Source.endings (limit : Nat) : (attempts : Nat) → Source → Nat
  | 0, _ => 0
  | attempts + 1, source =>
    match source.readLine limit with
    | (.line _, _) => 0
    | (.ended, after) => endings limit attempts after + 1
    | (.failed _, after) => endings limit attempts after + 1

namespace Bridge

/-- How many requests for a break the next request for a line makes, if a counter is
bound. -/
def breaks (bridge : Bridge) : Nat :=
  if bridge.exhausted || !bridge.interactive then 0
  else bridge.source.endings bridge.maxInput (bridge.source.script.length + 1)

namespace Waiting

/-- Where an attempt leads, with the attempts that are left. -/
def goOn (attempts : Nat) : Except Turn Waiting → Turn
  | .error turn => turn
  | .ok waiting => waiting.await attempts

theorem await_succ (attempts : Nat) (waiting : Waiting) :
    waiting.await (attempts + 1) = goOn attempts waiting.attempt := by
  unfold await goOn
  cases waiting.attempt with
  | error turn => rfl
  | ok waiting => rfl

/-- An end of input that nobody sits at asks for nothing. -/
theorem await_cell_of_unattended {waiting : Waiting} (unattended : waiting.bridge.interactive = false)
    (attempts : Nat) : (waiting.await attempts).cell = waiting.cell := by
  cases attempts with
  | zero => rfl
  | succ attempts =>
      rw [await_succ]
      unfold attempt
      cases waiting.bridge.source.readLine waiting.bridge.maxInput with
      | mk reading source =>
          cases reading with
          | line bytes => rfl
          | ended => simp only [ended, unattended]; rfl
          | failed cause => simp only [ended, unattended]; rfl

theorem breakOff_bridge (waiting : Waiting) :
    waiting.breakOff.bridge = (waiting.bridge.say [lineFeed]).1 := by
  unfold breakOff
  cases waiting.cell with
  | none => rfl
  | some value => rfl

theorem breakOff_cell (waiting : Waiting) :
    waiting.breakOff.cell = waiting.cell.map (· + 1) := by
  unfold breakOff
  cases waiting.cell with
  | none => rfl
  | some value => rfl

/-- An interactive end of input adds one, and reading goes on behind it.  The
induction is on the attempts that are left. -/
theorem await_cell_of_interactive {waiting : Waiting} (interactive : waiting.bridge.interactive = true)
    (attempts : Nat) : (waiting.await attempts).cell =
      waiting.cell.map (· + .ofNat (waiting.bridge.source.endings waiting.bridge.maxInput attempts)) := by
  induction attempts generalizing waiting with
  | zero => exact (map_add_zero waiting.cell).symm
  | succ attempts inductionHypothesis =>
      have onward {next : Waiting} (sitting : next.bridge.interactive = true) :
          (goOn attempts next.ended).cell = next.cell.map (· + .ofNat
            (next.bridge.source.endings next.bridge.maxInput attempts + 1)) := by
        have same := breakOff_bridge next
        rw [ended, if_pos sitting]
        dsimp only [goOn]
        rw [inductionHypothesis (by rw [same]; exact sitting), same, breakOff_cell]
        rw [Nat.add_comm]
        exact map_add_add next.cell 1 _
      rw [await_succ]
      unfold attempt Source.endings
      cases waiting.bridge.source.readLine waiting.bridge.maxInput with
      | mk reading source =>
          cases reading with
          | line bytes => exact (map_add_zero waiting.cell).symm
          | ended => exact onward interactive
          | failed cause => exact onward interactive

end Waiting

theorem nextLine_cell (bridge : Bridge) (prompt : Bytes) (cell : Option UInt8) :
    (bridge.nextLine prompt cell).cell = cell.map (· + .ofNat bridge.breaks) := by
  unfold nextLine breaks
  cases bridge.exhausted with
  | true => exact (map_add_zero cell).symm
  | false =>
      simp only [Bool.false_eq_true, if_false, Bool.false_or]
      cases sitting : bridge.interactive with
      | false =>
          have asleep : (bridge.say prompt).1.interactive = false := sitting
          rw [Waiting.await_cell_of_unattended asleep]
          exact (map_add_zero cell).symm
      | true =>
          have awake : (bridge.say prompt).1.interactive = true := sitting
          exact Waiting.await_cell_of_interactive awake _

/-- The record of a request at an end of input, with the value that it returned. -/
def breakReport (value : UInt8) : Log.Record :=
  Log.debug "end of interactive input, break requested" [("value", toString value.toNat)]

def isBreakReport (record : Log.Record) : Bool :=
  record.level = .debug && record.message = "end of interactive input, break requested"

/-- The reports of so many requests that are made of a cell one after another. -/
def breakReports (value : UInt8) (count : Nat) : List Log.Record :=
  (List.range count).map fun earlier => breakReport (value + .ofNat (earlier + 1))

theorem breakReports_succ (value : UInt8) (count : Nat) :
    breakReports value (count + 1) = breakReport (value + 1) :: breakReports (value + 1) count := by
  have added (earlier : Nat) :
      value + .ofNat (earlier + 1 + 1) = value + 1 + .ofNat (earlier + 1) := by
    rw [UInt8.add_assoc, Nat.add_comm _ 1, UInt8.ofNat_add]
    rfl
  unfold breakReports
  rw [List.range_succ_eq_map, List.map_cons, List.map_map]
  exact congrArg (List.cons _)
    (congrArg (List.map · _) (funext fun earlier => congrArg breakReport (added earlier)))

theorem say_reports (bridge : Bridge) (bytes : Bytes) :
    (bridge.say bytes).2.filter isBreakReport = [] := by
  unfold say
  rcases bridge.sink.put bytes with ⟨fault, sink⟩
  cases fault with
  | none => rfl
  | some fault => rfl

namespace Waiting

theorem await_reports_of_unattended {waiting : Waiting}
    (unattended : waiting.bridge.interactive = false) (attempts : Nat) :
    (waiting.await attempts).log.filter isBreakReport =
      waiting.log.reverse.filter isBreakReport := by
  have later (record : Log.Record) (other : isBreakReport record = false) (log : List Log.Record) :
      (record :: log).reverse.filter isBreakReport = log.reverse.filter isBreakReport := by
    rw [List.reverse_cons, List.filter_append, List.filter_cons_of_neg (by simp [other])]
    exact List.append_nil _
  cases attempts with
  | zero => rfl
  | succ attempts =>
      rw [await_succ]
      unfold attempt
      cases waiting.bridge.source.readLine waiting.bridge.maxInput with
      | mk reading source =>
          cases reading with
          | line bytes => rfl
          | ended =>
              simp only [ended, unattended]
              exact later _ rfl _
          | failed cause =>
              simp only [ended, unattended]
              exact (later _ rfl _).trans (later _ rfl _)

theorem breakOff_log {waiting : Waiting} {value : UInt8} (celled : waiting.cell = some value) :
    waiting.breakOff.log.reverse.filter isBreakReport =
      waiting.log.reverse.filter isBreakReport ++ [breakReport (value + 1)] := by
  have said : (waiting.bridge.say [lineFeed]).2.filter isBreakReport = [] := say_reports _ _
  unfold breakOff
  rw [celled]
  simp only [List.reverse_cons, List.reverse_append, List.reverse_reverse, List.filter_append, said,
    List.append_nil]
  rfl

/-- Each request is reported with the value that it left.  The induction is on the
attempts that are left. -/
theorem await_reports {waiting : Waiting} (interactive : waiting.bridge.interactive = true)
    {value : UInt8} (celled : waiting.cell = some value) (attempts : Nat) :
    (waiting.await attempts).log.filter isBreakReport =
      waiting.log.reverse.filter isBreakReport ++
        breakReports value (waiting.bridge.source.endings waiting.bridge.maxInput attempts) := by
  induction attempts generalizing waiting value with
  | zero => exact (List.append_nil _).symm
  | succ attempts inductionHypothesis =>
      have onward {next : Waiting} (sitting : next.bridge.interactive = true)
          (here : next.cell = some value)
          (silent : next.log.reverse.filter isBreakReport =
            waiting.log.reverse.filter isBreakReport) :
          (goOn attempts next.ended).log.filter isBreakReport =
            waiting.log.reverse.filter isBreakReport ++
              breakReports value (next.bridge.source.endings next.bridge.maxInput attempts + 1) := by
        have same := breakOff_bridge next
        have added : next.breakOff.cell = some (value + 1) := by
          rw [breakOff_cell, here, Option.map_some]
        rw [ended, if_pos sitting]
        dsimp only [goOn]
        rw [inductionHypothesis (by rw [same]; exact sitting) added, breakOff_log here, same,
          List.append_assoc, breakReports_succ, silent]
        rfl
      rw [await_succ]
      unfold attempt Source.endings
      cases waiting.bridge.source.readLine waiting.bridge.maxInput with
      | mk reading source =>
          cases reading with
          | line bytes => exact (List.append_nil _).symm
          | ended => exact onward interactive celled rfl
          | failed cause =>
              have silent : (Log.warn ("failed to read console input: " ++ cause.message) [] ::
                  waiting.log).reverse.filter isBreakReport =
                    waiting.log.reverse.filter isBreakReport := by
                rw [List.reverse_cons, List.filter_append]
                exact List.append_nil _
              exact onward interactive celled silent

end Waiting

/-- What the requests of one line returned is in the diagnostics, in order. -/
theorem nextLine_reports (bridge : Bridge) (prompt : Bytes) (value : UInt8) :
    (bridge.nextLine prompt (some value)).log.filter isBreakReport =
      breakReports value bridge.breaks := by
  unfold nextLine breaks
  cases bridge.exhausted with
  | true => rfl
  | false =>
      simp only [Bool.false_eq_true, if_false, Bool.false_or]
      have said : (bridge.say prompt).2.filter isBreakReport = [] := say_reports _ _
      cases sitting : bridge.interactive with
      | false =>
          have asleep : (bridge.say prompt).1.interactive = false := sitting
          refine (Waiting.await_reports_of_unattended asleep _).trans ?_
          rw [List.reverse_reverse, said]
          rfl
      | true =>
          have awake : (bridge.say prompt).1.interactive = true := sitting
          refine (Waiting.await_reports awake rfl _).trans ?_
          rw [List.reverse_reverse, said]
          rfl

end Bridge

namespace Host

variable {σ : Type} {host : Host σ} {handle : Handle}

/-- The requests that asking a bridge for a line makes.  They go to the instance of
the bound counter. -/
def breaksAt (host : Host σ) (id : BridgeId) : List CellEvent :=
  match host.bridges[id]? with
  | none => []
  | some bridge =>
    match bridge.cancel with
    | none => []
    | some counter => .replicate bridge.breaks (.requested counter.handle)

/-- The requests that the input callback makes.  Without a route it makes none. -/
def breaksFor (host : Host σ) (address : Address) : List CellEvent :=
  match host.bridgeAt? address with
  | none => []
  | some bridge => host.breaksAt bridge

/-- Whether or not there is a line in the end, the state stays as it is. -/
theorem leaves_line {line : Option Bytes} {property : Host σ → Prop} (holds : property host) :
    Hosting.Leaves (match line with
      | some line => pure line
      | none => throw .stuck : Hosting σ Bytes) host property := by
  cases line with
  | none => exact holds
  | some line => exact holds

theorem readLine_recounts (host : Host σ) (id : BridgeId) (prompt : Bytes) :
    Recounts (readLine id prompt) host (host.breaksAt id) := by
  unfold breaksAt readLine Recounts
  rw [Hosting.leaves_get_bind]
  cases host.bridges[id]? with
  | none => exact CellsFollow.refl host.cells
  | some bridge =>
      dsimp only
      rw [Hosting.leaves_set_bind, Bridge.nextLine_cell]
      apply leaves_line
      cases bridge.cancel with
      | none => exact CellsFollow.refl host.cells
      | some counter =>
          have requested := CellsFollow.requested host.cells counter.handle bridge.breaks
          dsimp only [Option.bind]
          cases celled : host.cell? counter.handle with
          | none =>
              rw [modify_of_bare celled] at requested
              exact requested
          | some value =>
              rw [modify_of_celled celled] at requested
              exact requested

theorem inputCallback_recounts (host : Host σ) (address : Address) (prompt : Option Bytes) :
    Recounts (inputCallback address prompt) host (host.breaksFor address) := by
  unfold breaksFor inputCallback Recounts
  rw [Hosting.leaves_get_bind]
  cases host.bridgeAt? address with
  | none => exact CellsFollow.refl host.cells
  | some bridge => exact (readLine_recounts host bridge _).bind_untouched fun _ _ => rfl

/-! ## What an engine does while it answers -/

theorem display_cells (host : Host σ) (id : BridgeId) (kind : OutputKind) (payload : Bytes) :
    (host.display id kind payload).cells = host.cells := by
  unfold display
  cases host.bridges[id]? with
  | none => rfl
  | some bridge => rfl

theorem exitEvent_cells (host : Host σ) (id : BridgeId) (status : Int32) :
    Hosting.Leaves (exitEvent id status) host (Untouched host) := by
  rw [exitEvent_eq]
  rw [Hosting.leaves_get_bind]
  cases host.bridges[id]? with
  | none => rfl
  | some bridge =>
      dsimp only
      rw [Hosting.leaves_set_bind]
      split
      · rfl
      · rfl

theorem outputCallback_cells (host : Host σ) (address : Address) (code : Int32)
    (argument : OutputArgument) :
    Hosting.Leaves (outputCallback address code argument) host (Untouched host) := by
  unfold outputCallback
  rw [Hosting.leaves_get_bind]
  cases host.bridgeAt? address with
  | none => rfl
  | some bridge =>
      dsimp only
      split
      · exact exitEvent_cells host bridge argument.status
      · exact display_cells host bridge _ _

/-- What happens to the cells while a conversation is served. -/
def cellEventsOf {α : Type} (handle : Handle) : Conversation α → Host σ → List CellEvent
  | .finished _, _ => []
  | .output code argument next, host =>
    ensuing (outputCallback (.at handle) code argument) host fun _ after =>
      cellEventsOf handle next after
  | .input prompt next, host =>
    host.breaksFor (.at handle) ++
      ensuing (inputCallback (.at handle) prompt) host fun line after =>
        cellEventsOf handle (next line) after
  | .readCell next, host => cellEventsOf handle (next (host.cell? handle)) host
  | .writeCell value next, host =>
    .written handle value :: cellEventsOf handle next (host.setCell handle value)
  | .signal next, host =>
    host.raising ++ ensuing raise host fun handled after => cellEventsOf handle (next handled) after
  | .note entry next, host => cellEventsOf handle next (host.enter (.noted handle entry))

/-- The induction is on the conversation: what a request leaves behind is where the
rest of the conversation starts. -/
theorem converse_recounts {α : Type} (conversation : Conversation α) (host : Host σ) :
    Recounts (converse handle conversation) host (cellEventsOf handle conversation host) := by
  induction conversation generalizing host with
  | finished result => exact CellsFollow.refl host.cells
  | output code argument next inductionHypothesis =>
      exact (Recounts.of_untouched (outputCallback_cells host (.at handle) code argument)).bind
        fun _ after => inductionHypothesis after
  | input prompt next inductionHypothesis =>
      exact (inputCallback_recounts host (.at handle) prompt).bind
        fun line after => inductionHypothesis line after
  | readCell next inductionHypothesis => exact inductionHypothesis _ host
  | writeCell value next inductionHypothesis =>
      exact (inductionHypothesis (host.setCell handle value)).mono
        fun _ => (CellsFollow.written host.cells handle value).append
  | signal next inductionHypothesis =>
      exact (raise_recounts host).bind fun handled after => inductionHypothesis handled after
  | note entry next inductionHypothesis =>
      exact inductionHypothesis (host.enter (.noted handle entry))

/-- What happens to the cells while an instance answers a call. -/
def cellEventsDuring [Engine σ] (handle : Handle) (request : Call) (host : Host σ) :
    List CellEvent :=
  cellEventsOf handle (Engine.respond host.engine handle request.symbol request.arguments)
    (host.enter (.called handle request))

theorem call_recounts [Engine σ] (handle : Handle) (request : Call) (host : Host σ) :
    Recounts (call handle request) host (cellEventsDuring handle request host) :=
  leads_call.mpr (converse_recounts _ _)

end Host

end SessionHost
