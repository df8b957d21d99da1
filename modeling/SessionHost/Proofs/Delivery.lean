import SessionHost.Proofs.Pieces
import SessionHost.Proofs.Service

namespace SessionHost

/-!
# The delivery of console input

A console that nobody sits at answers requests for input with the lines of its
stream, one after another, whichever way the requests come in.  Behind the last
line it answers with the shutdown sentence: the first request that finds the
end latches it, and the later ones change nothing at all.
-/

/-! ## What a console shows -/

namespace Sink

variable {sink : Sink}

/-- Put payloads one after another, whatever becomes of each. -/
def putAll (sink : Sink) (payloads : List Bytes) : Sink :=
  payloads.foldl (fun sink payload => (sink.put payload).2) sink

/-- A sink that takes whatever it is given. -/
structure Boundless (sink : Sink) : Prop where
  room : sink.room = none
  accepting : sink.perWrite ≠ some 0

theorem Boundless.write (boundless : sink.Boundless) (payload : Bytes) :
    sink.write payload = (none, if payload = [] then sink else sink.append payload) := by
  have fits : sink.fitting payload = payload := by rw [fitting, boundless.room]
  cases payload with
  | nil => rfl
  | cons byte rest =>
      rw [Sink.write, fits]
      simp [boundless.accepting]

theorem Boundless.put (boundless : sink.Boundless) (payload : Bytes) :
    (sink.put payload).2.contents = sink.contents ++ payload ∧
      (sink.put payload).2.Boundless := by
  have flushed (after : Sink) (stays : after.Boundless) :
      after.flush.2.contents = after.contents ∧ after.flush.2.Boundless := by
    rw [flush]
    split
    · exact ⟨rfl, stays.room, stays.accepting⟩
    · exact ⟨rfl, stays.room, stays.accepting⟩
  rw [Sink.put, boundless.write]
  cases payload with
  | nil =>
      rw [List.append_nil]
      exact flushed sink boundless
  | cons byte rest =>
      have shown : (sink.append (byte :: rest)).contents = sink.contents ++ (byte :: rest) := by
        simp [contents, append]
      rw [← shown]
      refine flushed _ ⟨?_, boundless.accepting⟩
      rw [append, boundless.room]
      rfl

theorem Boundless.putAll (boundless : sink.Boundless) (payloads : List Bytes) :
    (sink.putAll payloads).contents = sink.contents ++ payloads.flatten := by
  induction payloads generalizing sink with
  | nil => exact (List.append_nil _).symm
  | cons payload rest inductionHypothesis =>
      rcases boundless.put payload with ⟨shown, stays⟩
      rw [List.flatten_cons, ← List.append_assoc, ← shown]
      exact inductionHypothesis stays

end Sink

/-! ## Single requests of a bridge -/

namespace Bridge

open Source (piece? lineOf)

variable {bridge : Bridge}

/-- A request that its first attempt settles. -/
theorem nextLine_of_attempt (unlatched : bridge.exhausted = false) {prompt : Bytes}
    {cell : Option UInt8} {turn : Turn}
    (settled : Waiting.attempt ⟨(bridge.say prompt).1, cell, (bridge.say prompt).2.reverse⟩ =
      .error turn) : bridge.nextLine prompt cell = turn := by
  unfold nextLine
  rw [if_neg (by simp [unlatched])]
  dsimp only
  unfold Waiting.await
  rw [settled]

/-- A request that finds a line writes its prompt and leaves the rest of the source. -/
theorem nextLine_of_line (unlatched : bridge.exhausted = false) {line : Bytes} {after : Source}
    (read : bridge.source.readLine bridge.maxInput = (.line line, after)) (prompt : Bytes) :
    ∃ log, ∀ cell, bridge.nextLine prompt cell =
      ⟨{ (bridge.say prompt).1 with source := after }, some line, cell, log⟩ := by
  have same : (bridge.say prompt).1.source.readLine (bridge.say prompt).1.maxInput =
      (.line line, after) := read
  refine ⟨(bridge.say prompt).2.reverse.reverse, fun cell => nextLine_of_attempt unlatched ?_⟩
  unfold Waiting.attempt
  rw [same]

/-- A request that finds no line on a console that nobody sits at latches the end of the
input. -/
theorem nextLine_of_lineless (unattended : bridge.interactive = false)
    (unlatched : bridge.exhausted = false) {reading : Source.Reading} {after : Source}
    (read : bridge.source.readLine bridge.maxInput = (reading, after))
    (lineless : ∀ line, reading ≠ .line line) (prompt : Bytes) :
    ∃ log, ∀ cell, bridge.nextLine prompt cell =
      ⟨{ (bridge.say prompt).1 with source := after, exhausted := true }, some bridge.shutdown,
        cell, log⟩ := by
  have same : (bridge.say prompt).1.source.readLine (bridge.say prompt).1.maxInput =
      (reading, after) := read
  have asleep : (bridge.say prompt).1.interactive = false := unattended
  have latched (records : List Log.Record) (cell : Option UInt8) :
      Waiting.ended ⟨{ (bridge.say prompt).1 with source := after }, cell, records⟩ =
        .error (Waiting.shutDown ⟨{ (bridge.say prompt).1 with source := after }, cell, records⟩) :=
    if_neg (by simp [asleep])
  suffices settled : ∃ records, ∀ cell,
      Waiting.attempt ⟨(bridge.say prompt).1, cell, (bridge.say prompt).2.reverse⟩ = .error
        (Waiting.shutDown ⟨{ (bridge.say prompt).1 with source := after }, cell, records⟩) by
    rcases settled with ⟨records, settled⟩
    exact ⟨(Log.debug "input exhausted, requesting shutdown" [] :: records).reverse,
      fun cell => nextLine_of_attempt unlatched (settled cell)⟩
  cases reading with
  | line bytes => exact absurd rfl (lineless bytes)
  | ended =>
      refine ⟨(bridge.say prompt).2.reverse, fun cell => ?_⟩
      unfold Waiting.attempt
      rw [same]
      exact latched _ cell
  | failed cause =>
      refine ⟨Log.warn ("failed to read console input: " ++ cause.message) [] ::
        (bridge.say prompt).2.reverse, fun cell => ?_⟩
      unfold Waiting.attempt
      rw [same]
      exact latched _ cell

theorem nextLine_of_exhausted (latched : bridge.exhausted = true) (prompt : Bytes)
    (cell : Option UInt8) :
    bridge.nextLine prompt cell = ⟨bridge, some bridge.shutdown, cell, []⟩ := by
  unfold nextLine
  rw [if_pos latched]

end Bridge

/-! ## Requests that reach a bridge -/

/-- A request for input, by the way it comes in. -/
inductive LineRequest where
  /-- For text, from the host. -/
  | text (prompt : String)
  /-- For bytes, from the host. -/
  | bytes (prompt : Bytes)
  /-- Through the input callback. -/
  | callback (prompt : Option Bytes)

namespace LineRequest

inductive Reply where
  | text (line : String)
  | bytes (line : Bytes)

/-- What is written before the line is read. -/
def prompt : LineRequest → Bytes
  | text prompt => Bytes.ofString prompt
  | bytes prompt => prompt
  | callback prompt => prompt.getD []

/-- The form in which a line is given. -/
def reply : LineRequest → Bytes → Reply
  | text _, line => .text (Utf8.decodeLossy line)
  | bytes _, line => .bytes line
  | callback _, line => .bytes line

end LineRequest

namespace Host

variable {σ : Type} {host : Host σ} {id : BridgeId} {address : Address} {bridge : Bridge}

/-- Answer a request, on a bridge or by way of an address. -/
def answer (id : BridgeId) (address : Address) : LineRequest → Hosting σ LineRequest.Reply
  | .text prompt => return .text (← readText id prompt)
  | .bytes prompt => return .bytes (← readLine id prompt)
  | .callback prompt => return .bytes (← inputCallback address prompt)

theorem setCell_self {handle : Handle} {value : UInt8} (same : host.cell? handle = some value) :
    host.setCell handle value = host := by
  have cells : host.cells.modify handle (·.map fun _ => value) = host.cells := by
    apply Array.ext_getElem?
    intro other
    rw [Array.getElem?_modify]
    split
    · next here =>
        subst other
        rw [Option.join_eq_some_iff.mp same]
        rfl
    · rfl
  unfold setCell
  rw [cells]

/-- A request whose turn comes to an end leaves the bridge of that turn. -/
theorem readLine_of_turn (found : host.bridges[id]? = some bridge) {prompt line : Bytes}
    {after : Bridge} {log : List Log.Record}
    (turn : ∀ cell, bridge.nextLine prompt cell = ⟨after, some line, cell, log⟩) :
    readLine id prompt host = .ok line ((host.setBridge id after).say log) := by
  unfold readLine
  rw [Hosting.get_bind, found]
  dsimp only
  rw [Hosting.set_bind, turn]
  cases bound : bridge.cancel with
  | none => rfl
  | some counter =>
      dsimp only [Option.bind]
      cases inside : host.cell? counter.handle with
      | none => rfl
      | some value =>
          have stillInside :
              ((host.setBridge id after).say log).cell? counter.handle = some value := inside
          dsimp only
          rw [setCell_self stillInside]
          rfl

/-- A request is answered with what is read for it, whichever way it comes in. -/
theorem answer_of_read (routed : host.bridgeAt? address = some id) {request : LineRequest}
    {line : Bytes} {after : Host σ} (read : readLine id request.prompt host = .ok line after)
    (clean : line.hasNul = false) :
    answer id address request host = .ok (request.reply line) after := by
  cases request with
  | text prompt =>
      have text : readText id prompt host = .ok (Utf8.decodeLossy line) after :=
        Hosting.bind_of_ok read _
      exact Hosting.bind_of_ok text _
  | bytes prompt => exact Hosting.bind_of_ok read _
  | callback prompt =>
      have same : line.terminated = line := if_neg (by simp [clean])
      have answered : inputCallback address prompt host = .ok line.terminated after := by
        unfold inputCallback
        rw [Hosting.get_bind, routed]
        exact Hosting.bind_of_ok read _
      rw [same] at answered
      exact Hosting.bind_of_ok answered _

theorem answer_of_turn (found : host.bridges[id]? = some bridge)
    (routed : host.bridgeAt? address = some id) (request : LineRequest) {line : Bytes}
    {after : Bridge} {log : List Log.Record}
    (turn : ∀ cell, bridge.nextLine request.prompt cell = ⟨after, some line, cell, log⟩)
    (clean : line.hasNul = false) :
    answer id address request host = .ok (request.reply line) ((host.setBridge id after).say log) :=
  answer_of_read routed (readLine_of_turn found turn) clean

theorem setBridge_self (found : host.bridges[id]? = some bridge) :
    host.setBridge id bridge = host := by
  have bridges : host.bridges.set id bridge = host.bridges := by
    apply List.ext_getElem?
    intro other
    rw [List.getElem?_set]
    split
    · next same =>
        subst other
        split
        · exact found.symm
        · next beyond =>
            exact absurd (List.getElem?_eq_some_iff.mp found).1 beyond
    · rfl
  unfold setBridge
  rw [bridges]

theorem getElem?_setBridge (found : host.bridges[id]? = some bridge) (after : Bridge) :
    (host.setBridge id after).bridges[id]? = some after :=
  List.getElem?_set_self (List.getElem?_eq_some_iff.mp found).1

theorem mapM_cons_of_ok {α β : Type} {action : α → Hosting σ β} {entry : α} {rest : List α}
    {value : β} {values : List β} {middle last : Host σ}
    (first : action entry host = .ok value middle)
    (later : rest.mapM action middle = .ok values last) :
    (entry :: rest).mapM action host = .ok (value :: values) last := by
  rw [List.mapM_cons, Hosting.bind_of_ok first, Hosting.bind_of_ok later]
  rfl

/-- What a number of requests comes to: each is answered with its line, or with
the shutdown sentence behind the last line, and those that still found input or
found its end have written their prompts.  When the end was found, any further
requests get the shutdown sentence, and the host stays exactly as it is. -/
structure Delivered (id : BridgeId) (address : Address) (lines : List Bytes) (shutdown : Bytes)
    (sink : Sink) (requests : List LineRequest) (replies : List LineRequest.Reply)
    (after : Host σ) : Prop where
  count : replies.length = requests.length
  replies : ∀ (position : Nat) (request : LineRequest), requests[position]? = some request →
    replies[position]? = some (request.reply (lines[position]?.getD shutdown))
  prompts : ∃ last, after.bridges[id]? = some last ∧
    last.sink = (requests.take (lines.length + 1)).foldl
      (fun sink request => (sink.put request.prompt).2) sink
  latched : lines.length < requests.length → ∀ more : List LineRequest,
    more.mapM (answer id address) after = .ok (more.map (·.reply shutdown)) after

namespace Delivered

variable {lines : List Bytes} {line shutdown : Bytes} {sink : Sink} {request : LineRequest}
  {requests : List LineRequest} {replies : List LineRequest.Reply} {after : Host σ}

/-- A request that found a line, in front of others. -/
theorem cons (later : Delivered id address lines shutdown (sink.put request.prompt).2 requests
    replies after) :
    Delivered id address (line :: lines) shutdown sink (request :: requests)
      (request.reply line :: replies) after where
  count := congrArg Nat.succ later.count
  replies := by
    intro position wanted listed
    cases position with
    | zero =>
        cases listed
        rfl
    | succ position => exact later.replies position wanted listed
  prompts := later.prompts
  latched more := later.latched (Nat.lt_of_succ_lt_succ more)

/-- A request that found the end, in front of others. -/
theorem ended {last : Bridge} (found : after.bridges[id]? = some last)
    (shown : last.sink = (sink.put request.prompt).2)
    (latched : ∀ more : List LineRequest,
      more.mapM (answer id address) after = .ok (more.map (·.reply shutdown)) after) :
    Delivered id address [] shutdown sink (request :: requests)
      (request.reply shutdown :: requests.map (·.reply shutdown)) after where
  count := by rw [List.length_cons, List.length_map, List.length_cons]
  replies := by
    intro position wanted listed
    cases position with
    | zero =>
        cases listed
        rfl
    | succ position =>
        rw [List.getElem?_cons_succ] at listed ⊢
        rw [List.getElem?_map, listed]
        rfl
  prompts := ⟨last, found, shown⟩
  latched _ := latched

end Delivered

end Host

end SessionHost
