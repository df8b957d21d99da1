import SessionHost.Engine.Passage
import SessionHost.Proofs.Encoding
import SessionHost.Proofs.TableHistory

namespace SessionHost

/-!
# Calls by id

What may be asked of a session by its id is one of thirteen calls into the
engine, a release, or a request for a break.  An id of no live session refuses
all of them alike, and it does so before the text that is to be sent is looked
at; text that cannot be sent is refused before the engine hears of it.
Everything else goes through as it is.

What reaches the library is said from the library's side: it knows the entry
point that was called and what was passed to it, and from these alone it can
tell the whole call.
-/

/-! ## Reading a call back -/

namespace Bytes

theorem text?_append_nul {text : Bytes} (clean : text.hasNul = false) :
    text? (text ++ [0]) = some text := by
  have stops : ∀ byte ∈ text, (byte != 0) = true := by
    intro byte listed
    have different := List.any_eq_false.mp clean byte listed
    simpa using different
  have found : hasNul (text ++ [0]) = true := by
    unfold hasNul
    simp
  unfold text? cutAtNul
  rw [if_pos found, List.takeWhile_append_of_pos stops]
  simp

end Bytes

namespace Call

/-- The sizes in bytes of everything whose length is passed. -/
def sizes : Call → List Nat
  | getArray name => [name.length]
  | setArray name data => [name.length, data.length]
  | allocateArray _ _ shape => [8 * shape.length]
  | _ => []

/-- No collection of a call is larger than a collection can be. -/
def Storable (call : Call) : Prop :=
  ∀ size ∈ call.sizes, size ≤ Memory.largestCollection

instance (call : Call) : Decidable call.Storable :=
  inferInstanceAs (Decidable (∀ size ∈ call.sizes, size ≤ Memory.largestCollection))

end Call

/-- The length of what fits into memory is the word that is passed for it. -/
theorem toInt_ofNat_of_storable {length : Nat} (storable : length ≤ Memory.largestCollection) :
    (Int64.ofNat length).toInt = length :=
  Int64.toInt_ofNat_of_lt (Nat.lt_of_le_of_lt storable (by decide))

theorem measured?_length {α : Type} {memory : List α}
    (storable : memory.length ≤ Memory.largestCollection) :
    measured? (.ofNat memory.length) memory = some memory := by
  unfold measured?
  rw [toInt_ofNat_of_storable storable, if_pos ⟨Int.natCast_nonneg _, Int.le_refl _⟩,
    Int.toNat_natCast, List.take_length]

theorem Bytes.sizedText?_append_nul {text : Bytes} (clean : text.hasNul = false)
    (storable : text.length ≤ Memory.largestCollection) :
    Bytes.sizedText? (.ofNat text.length) (text ++ [0]) = some text := by
  unfold Bytes.sizedText?
  rw [Bytes.text?_append_nul clean, toInt_ofNat_of_storable storable]
  simp

namespace Call

theorem clean_of_isSendable {call : Call} (sendable : call.isSendable = true) {text : Bytes}
    (sent : call.text? = some text) : text.hasNul = false := by
  unfold isSendable at sendable
  rw [sent] at sendable
  simpa using sendable

/-- A library that goes by the entry point and by what it was passed makes out
the very call that was meant. -/
theorem call?_arguments {call : Call} (sendable : call.isSendable = true)
    (storable : call.Storable) : call.symbol.call? call.arguments = some call := by
  cases call with
  | setCallbacks table => rfl
  | execute sentence =>
      have read := Bytes.text?_append_nul (clean_of_isSendable sendable rfl)
      exact congrArg (Option.map execute) read
  | locale => rfl
  | getArray name =>
      have read := Bytes.sizedText?_append_nul (clean_of_isSendable sendable rfl)
        (storable _ (List.mem_cons_self ..))
      exact congrArg (Option.map getArray) read
  | setArray name data =>
      have named := Bytes.sizedText?_append_nul (clean_of_isSendable sendable rfl)
        (storable _ (List.mem_cons_self ..))
      have filled := measured?_length (storable _ (List.mem_cons_of_mem _ (List.mem_cons_self ..)))
      calc (setArray name data).symbol.call? (setArray name data).arguments
        _ = (Bytes.sizedText? (.ofNat name.length) (name ++ [0])).bind fun name =>
              (measured? (.ofNat data.length) data).map (setArray name) := rfl
        _ = (measured? (.ofNat data.length) data).map (setArray name) := by
              rw [named, Option.bind_some]
        _ = some (setArray name data) := by rw [filled, Option.map_some]
  | getNoun name noun =>
      have read := Bytes.text?_append_nul (clean_of_isSendable sendable rfl)
      exact congrArg (Option.map (getNoun · noun)) read
  | setNoun name noun =>
      have read := Bytes.text?_append_nul (clean_of_isSendable sendable rfl)
      exact congrArg (Option.map (setNoun · noun)) read
  | allocateArray type count shape =>
      have bounded : shape.length ≤ Memory.largestCollection := by
        have bytes : 8 * shape.length ≤ Memory.largestCollection :=
          storable _ (List.mem_cons_self ..)
        omega
      exact congrArg (Option.map (allocateArray type count)) (measured?_length bounded)
  | errorText code address => rfl
  | transpose flag => rfl
  | interrupt => rfl
  | clear => rfl
  | isBusy => rfl

theorem heq_received {call : Call} (verbatim : call ≠ locale) (answer : call.symbol.Answer) :
    HEq (call.received answer) answer := by
  cases call with
  | locale => exact absurd rfl verbatim
  | _ => exact HEq.rfl

/-- A name that is UTF-8 is the text that it encodes. -/
theorem received_locale {name : Bytes} {text : String}
    (decoded : Utf8.decode? name = some text) : locale.received (some name) = some text := by
  have encoded : Bytes.ofString text = name := Utf8.decode?_eq_some_iff.mp decoded
  subst encoded
  exact congrArg some (Utf8.decodeLossy_ofString text)

end Call

/-! ## Requests by id -/

/-- What may be asked of a session by its id. -/
inductive SessionRequest where
  | call (call : Call)
  | free
  | incrementBreak

namespace SessionRequest

def operation (raw : Int) : SessionRequest → Operation
  | call made => .forward raw made
  | free => .release raw
  | incrementBreak => .incrementBreak raw

/-- The answer where the id is that of no live session. -/
def notFound (raw : Int) : SessionRequest → Answer
  | call _ => .notForwarded (.session (.sessionNotFound raw))
  | free => .refused (.sessionNotFound raw)
  | incrementBreak => .refused (.sessionNotFound raw)

/-- The words that are lent with a request. -/
def lent : SessionRequest → List Int64
  | call made => made.lent
  | free => []
  | incrementBreak => []

/-- The same words as the caller finds them afterwards.  Nobody but a library
that was called writes to them. -/
def lentAfter : SessionRequest → Except Halt Answer → List Int64
  | call _, .ok (.result made value) => made.left value
  | request, _ => request.lent

end SessionRequest

namespace Host

variable {σ : Type} {host : Host σ} {raw : Int} {session : Session} {handle : Handle}

/-- An id is that of a live session. -/
def Lives (host : Host σ) (raw : Int) (session : Session) : Prop :=
  0 ≤ raw ∧ host.registry.sessions[raw.toNat]? = some session ∧ session.released = false

theorem lookup_of_lives (lives : host.Lives raw session) :
    host.registry.lookup raw = .ok raw.toNat :=
  Registry.lookup_eq_ok_iff.mpr ⟨lives.1, rfl, session, lives.2⟩

theorem lookup_of_dead (dead : ∀ session, ¬ host.Lives raw session) :
    host.registry.lookup raw = .error (.sessionNotFound raw) := by
  cases looked : host.registry.lookup raw with
  | error error => rw [Registry.lookup_eq_error looked]
  | ok id =>
      rcases Registry.lookup_eq_ok_iff.mp looked with ⟨nonnegative, rfl, session, lives⟩
      exact absurd ⟨nonnegative, lives⟩ (dead session)

/-- While a call is served, the instance's notes about itself are all that the
journal grows by. -/
def NotedOnly (handle : Handle) (before after : Host σ) : Prop :=
  ∃ notes : List Note, after.journal = notes.map (.noted handle) ++ before.journal

theorem NotedOnly.of_served {before after : Host σ} (served : ∀ other, Served other before after) :
    NotedOnly handle before after :=
  ⟨[], Served.journal_eq served⟩

theorem converse_notedOnly {α : Type} (conversation : Conversation α) (host : Host σ) :
    Hosting.Leaves (converse handle conversation) host (NotedOnly handle host) := by
  have silent {β : Type} {request : Hosting σ β} {start : Host σ}
      (served : ∀ other, Hosting.Leaves request start (Served other start)) :
      Hosting.Leaves request start (NotedOnly handle start) :=
    (Hosting.Leaves.all served).mono fun _ => NotedOnly.of_served
  apply converse_leaves (NotedOnly handle)
  · exact fun host => ⟨[], rfl⟩
  · rintro first second third ⟨earlier, before⟩ ⟨later, after⟩
    refine ⟨later ++ earlier, ?_⟩
    rw [after, before, List.map_append, List.append_assoc]
  · exact fun host code argument => silent fun _ => outputCallback_served host _ code argument
  · exact fun host prompt => silent fun _ => inputCallback_served host _ prompt
  · exact fun host value => ⟨[], rfl⟩
  · exact fun host => silent fun _ => raise_served host
  · exact fun host entry => ⟨[entry], rfl⟩

variable [Engine σ]

/-- Text that cannot be sent stops a call at the table. -/
theorem perform_forward_of_unsendable (opened : host.opened = true)
    (lives : host.Lives raw session) {request : Call} (unsendable : request.isSendable = false) :
    perform (.forward raw request) host = .ok (.notForwarded .interiorNul) host := by
  have answered : forward raw request host = .ok (.error .interiorNul) host := by
    unfold forward
    rw [Hosting.get_bind, lookup_of_lives lives]
    dsimp only
    rw [unsendable]
    rfl
  rw [perform, withTable_of_opened opened]
  simp only [bind, EStateM.bind, answered]
  rfl

/-- A call ends as the engine's conversation ends. -/
theorem call_eq (host : Host σ) (handle : Handle) (request : Call) :
    call handle request host =
      match converse handle
          (Engine.respond host.engine handle request.symbol request.arguments)
          (host.enter (.called handle request)) with
      | .ok (answer, engine) next => .ok (request.received answer) { next with engine }
      | .error halt next => .error halt next := by
  have engine : (host.enter (.called handle request)).engine = host.engine := rfl
  unfold call
  rw [Hosting.modify_bind, Hosting.get_bind, engine]
  simp only [bind, EStateM.bind]
  cases converse handle (Engine.respond host.engine handle request.symbol request.arguments)
    (host.enter (.called handle request)) with
  | ok answer next => rfl
  | error halt next => rfl

/-- A call by id that goes through is a call into the instance of the session. -/
theorem forward_of_sendable (lives : host.Lives raw session) {request : Call}
    (sendable : request.isSendable = true) :
    forward raw request host = match call session.handle request host with
      | .ok result next => .ok (.ok result) next
      | .error halt next => .error halt next := by
  have reached : callSession raw.toNat request host = (some <$> call session.handle request) host := by
    unfold callSession
    rw [Hosting.get_bind, lives.2.1]
  unfold forward
  rw [Hosting.get_bind, lookup_of_lives lives]
  dsimp only
  rw [if_pos sendable]
  simp only [bind, EStateM.bind, reached, Functor.map, EStateM.map]
  cases call session.handle request host with
  | ok result next => rfl
  | error halt next => rfl

theorem perform_forward_of_sendable (opened : host.opened = true)
    (lives : host.Lives raw session) {request : Call} (sendable : request.isSendable = true) :
    perform (.forward raw request) host =
      match converse session.handle
          (Engine.respond host.engine session.handle request.symbol request.arguments)
          (host.enter (.called session.handle request)) with
      | .ok (answer, engine) next =>
        .ok (.result request (request.received answer)) { next with engine }
      | .error halt next => .error halt next := by
  rw [perform, withTable_of_opened opened]
  simp only [bind, EStateM.bind, forward_of_sendable lives sendable, call_eq]
  cases converse session.handle
    (Engine.respond host.engine session.handle request.symbol request.arguments)
    (host.enter (.called session.handle request)) with
  | ok answer next => rfl
  | error halt next => rfl

/-! ## What comes of a request -/

/-- What a call by id comes to that goes through to an instance. -/
structure GoesThrough (host : Host σ) (raw : Int) (handle : Handle) (request : Call) : Prop where
  /-- The library can tell the whole call from what reaches it. -/
  legible : request.Storable → request.symbol.call? request.arguments = some request
  /-- The instance is called once, with this call, and nothing else is called. -/
  once : ∃ notes : List Note, (host.after (.forward raw request)).journal =
    notes.map (.noted handle) ++ .called handle request :: host.journal
  /-- What the engine gives back, and what it left in the words it was lent,
  reaches the caller, and the rest is what serving its requests led to. -/
  returned : ∀ answer engine next,
    converse handle (Engine.respond host.engine handle request.symbol request.arguments)
        (host.enter (.called handle request)) = .ok (answer, engine) next →
      host.outcome (.forward raw request) = .ok (.result request (request.received answer)) ∧
        host.after (.forward raw request) = { next with engine } ∧
        (SessionRequest.call request).lentAfter (host.outcome (.forward raw request)) =
          request.left (request.received answer)
  /-- The call does not come back only where one of the requests does not. -/
  halted : ∀ halt next,
    converse handle (Engine.respond host.engine handle request.symbol request.arguments)
        (host.enter (.called handle request)) = .error halt next →
      host.outcome (.forward raw request) = .error halt ∧
        host.after (.forward raw request) = next

theorem goesThrough (opened : host.opened = true) (lives : host.Lives raw session) {request : Call}
    (sendable : request.isSendable = true) : host.GoesThrough raw session.handle request where
  legible := Call.call?_arguments sendable
  once := by
    have noted : Hosting.Leaves (converse session.handle _) _ (NotedOnly session.handle _) :=
      converse_notedOnly
        (Engine.respond host.engine session.handle request.symbol request.arguments)
        (host.enter (.called session.handle request))
    unfold after
    rw [perform_forward_of_sendable opened lives sendable]
    unfold Hosting.Leaves Hosting.Leads at noted
    cases served : converse session.handle
        (Engine.respond host.engine session.handle request.symbol request.arguments)
        (host.enter (.called session.handle request)) with
    | ok answer next =>
        rw [served] at noted
        exact noted
    | error halt next =>
        rw [served] at noted
        exact noted
  returned := by
    intro answer engine next served
    unfold outcome after
    rw [perform_forward_of_sendable opened lives sendable, served]
    exact ⟨rfl, rfl, rfl⟩
  halted := by
    intro halt next served
    unfold outcome after
    rw [perform_forward_of_sendable opened lives sendable, served]
    exact ⟨rfl, rfl⟩

/-- What comes of requests by one id, whatever they are. -/
structure Transparent (host : Host σ) (raw : Int) : Prop where
  /-- An id of no live session is reported as it was given, also where the text
  could not have been sent, and nothing comes of it. -/
  dead : (∀ session, ¬ host.Lives raw session) → ∀ request : SessionRequest,
    host.outcome (request.operation raw) = .ok (request.notFound raw) ∧
      host.after (request.operation raw) = host ∧
      request.lentAfter (host.outcome (request.operation raw)) = request.lent
  /-- Text with a NUL is reported, and nothing comes of it either. -/
  unsendable : ∀ session, host.Lives raw session → ∀ request : Call, request.isSendable = false →
    host.outcome (.forward raw request) = .ok (.notForwarded .interiorNul) ∧
      host.after (.forward raw request) = host ∧
      (SessionRequest.call request).lentAfter (host.outcome (.forward raw request)) = request.lent
  through : ∀ session, host.Lives raw session → ∀ request : Call, request.isSendable = true →
    host.GoesThrough raw session.handle request
  /-- What the library gives back is handed on as it is, the name of a locale apart. -/
  verbatim : ∀ request : Call, request ≠ .locale →
    ∀ answer, HEq (request.received answer) answer
  /-- The name of a locale comes as bytes, and it is handed on as the text that
  these bytes encode. -/
  locale : ∀ name text, Utf8.decode? name = some text →
    Call.locale.received (some name) = some text

/-- Calls by id are transparent, whatever the id and the arguments are. -/
theorem forwarding_transparent (opened : host.opened = true) (raw : Int) : host.Transparent raw where
  dead := by
    intro dead request
    have missed := lookup_of_dead dead
    cases request with
    | call request =>
        unfold outcome after
        rw [SessionRequest.operation, perform_forward_of_refused opened missed]
        exact ⟨rfl, rfl, rfl⟩
    | free =>
        unfold outcome after
        rw [SessionRequest.operation, perform_release opened, release_of_refused missed]
        exact ⟨rfl, rfl, rfl⟩
    | incrementBreak =>
        unfold outcome after
        rw [SessionRequest.operation, perform_incrementBreak opened]
        unfold incrementBreak
        rw [missed]
        exact ⟨rfl, rfl, rfl⟩
  unsendable := by
    intro session lives request unsendable
    unfold outcome after
    rw [perform_forward_of_unsendable opened lives unsendable]
    exact ⟨rfl, rfl, rfl⟩
  through := fun _ lives _ sendable => goesThrough opened lives sendable
  verbatim := fun _ => Call.heq_received
  locale := fun _ _ => Call.received_locale

/-- A name with a NUL in it for an id that was never given out and for one that
was, and the descriptors of a name that goes through. -/
theorem forwarding_transparent_for_recorder :
    ∃ first : Host Recording.Recorder,
      Host.init {} Memory.machine {} [] = .ok first ∧
        (first.after .acquire).opened = true ∧
        (first.after .acquire).outcome (.forward 7 (.getNoun [110, 0] ⟨9, 8, 7, 6⟩)) =
          .ok (.notForwarded (.session (.sessionNotFound 7))) ∧
        (first.after .acquire).outcome (.forward 0 (.getNoun [110, 0] ⟨9, 8, 7, 6⟩)) =
          .ok (.notForwarded .interiorNul) ∧
        (first.after .acquire).outcome (.forward 0 (.getNoun [110] ⟨9, 8, 7, 6⟩)) =
          .ok (.result (.getNoun [110] ⟨9, 8, 7, 6⟩) (0, ⟨4, 0, 7, 6⟩)) := by
  refine ⟨_, rfl, rfl, ?_, ?_, ?_⟩
  · refine ((forwarding_transparent rfl 7).dead ?_ (.call _)).1
    rintro session ⟨_, found, _⟩
    cases found
  · exact ((forwarding_transparent rfl 0).unsendable { handle := 0 } ⟨by decide, rfl, rfl⟩ _ rfl).1
  · refine ((forwarding_transparent rfl 0).through { handle := 0 } ⟨?_, rfl, rfl⟩ _ rfl).returned
      _ _ _ rfl |>.1
    decide

end Host

end SessionHost
