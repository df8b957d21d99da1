import SessionHost.Proofs.Accounts

namespace SessionHost

/-!
# How the accounts advance

Every stretch of an operation takes accounts to accounts.  `Advance` records
what such a stretch may do to the sessions that exist already: their instances
stay the same, they are not released by it, and none of them comes back from
being torn down.  Sessions that come about on the way are not released either.
It also says which session the stretch calls into.  Stretches of one operation
compose, so an operation is followed from one change of the state to the next.
-/

namespace Host

variable {σ : Type}

/-- A stretch of an operation that calls into the session `reached`, if into
any, and after which only the sessions in `owed` are still owed a look. -/
structure Advance (reached : Option SessionId) (owed : List SessionId)
    (before after : Host σ) : Prop where
  accounts : AccountsBut owed after
  sessions : ∀ (id : SessionId) (session : Session),
    before.registry.sessions[id]? = some session →
      ∃ later : Session, after.registry.sessions[id]? = some later ∧
        later.handle = session.handle ∧ later.released = session.released ∧
        (session.freed = true → later.freed = true)
  entered : ∀ (id : SessionId) (session : Session), before.registry.sessions[id]? = none →
    after.registry.sessions[id]? = some session → session.released = false
  journal : ∃ entries, after.journal = entries ++ before.journal ∧
    ∀ handle call, Entry.called handle call ∈ entries →
      ∃ (id : SessionId) (session : Session), reached = some id ∧
        after.registry.sessions[id]? = some session ∧ session.handle = handle

namespace Advance

variable {reached : Option SessionId} {owed further : List SessionId}
  {first second third before after host : Host σ}

theorem refl (accounts : AccountsBut owed host) : Advance reached owed host host where
  accounts := accounts
  sessions := fun _ session found => ⟨session, found, rfl, rfl, id⟩
  entered := fun _ _ absent found => by cases absent.symm.trans found
  journal := ⟨[], rfl, by simp⟩

theorem trans (earlier : Advance reached owed first second)
    (later : Advance reached further second third) : Advance reached further first third where
  accounts := later.accounts
  sessions := by
    intro id session found
    rcases earlier.sessions id session found with ⟨middle, atMiddle, handle, released, freed⟩
    rcases later.sessions id middle atMiddle with ⟨last, atLast, handle', released', freed'⟩
    exact ⟨last, atLast, handle'.trans handle, released'.trans released,
      fun torn => freed' (freed torn)⟩
  entered := by
    intro id session absent found
    cases atMiddle : second.registry.sessions[id]? with
    | none => exact later.entered id session atMiddle found
    | some middle =>
        rcases later.sessions id middle atMiddle with ⟨last, atLast, _, released, _⟩
        rw [found, Option.some.injEq] at atLast
        subst last
        exact released.trans (earlier.entered id middle absent atMiddle)
  journal := by
    rcases earlier.journal with ⟨entries, growth, calls⟩
    rcases later.journal with ⟨entries', growth', calls'⟩
    refine ⟨entries' ++ entries, ?_, ?_⟩
    · rw [growth', growth, List.append_assoc]
    · intro handle call listed
      rcases List.mem_append.mp listed with listed | listed
      · exact calls' handle call listed
      · rcases calls handle call listed with ⟨id, session, isReached, found, same⟩
        rcases later.sessions id session found with ⟨last, atLast, handle', _, _⟩
        exact ⟨id, last, isReached, atLast, handle'.trans same⟩

/-- What is said of fewer sessions is said of more. -/
theorem widen (advance : Advance reached owed before after) {wider : Option SessionId}
    (larger : ∀ id ∈ reached, id ∈ wider) : Advance wider owed before after :=
  { advance with
    journal := by
      rcases advance.journal with ⟨entries, growth, calls⟩
      refine ⟨entries, growth, ?_⟩
      intro handle call listed
      rcases calls handle call listed with ⟨id, session, isReached, found, same⟩
      exact ⟨id, session, larger id isReached, found, same⟩ }

/-- A change of references alone. -/
theorem exchange (accounts : AccountsBut owed before) (gained lost : List SessionId)
    (sessions : after.registry.sessions = before.registry.sessions)
    (journal : after.journal = before.journal) (named : after.Named)
    (balance : ∀ id, after.holders id + lost.count id = before.holders id + gained.count id)
    (stands : ∀ id ∈ gained, before.Standing id) :
    Advance reached (lost ++ owed) before after where
  accounts := accounts.exchange gained lost sessions (by simp [journal]) named balance stands
  sessions := by
    intro id session found
    exact ⟨session, by rw [sessions, found], rfl, rfl, fun freed => freed⟩
  entered := by
    intro id session absent found
    rw [sessions, absent] at found
    cases found
  journal := ⟨[], by simpa using journal, by simp⟩

/-- A change that no reference and no session is part of. -/
theorem of_references (accounts : AccountsBut owed before)
    (sessions : after.registry.sessions = before.registry.sessions)
    (references : after.references = before.references)
    (journal : after.journal = before.journal) (named : after.Named) :
    Advance reached owed before after := by
  refine exchange accounts [] [] sessions journal named ?_ (by simp)
  intro id
  unfold holders
  rw [references]

/-- A call through a session. -/
theorem of_served {id : SessionId} {session : Session} {handle : Handle}
    (accounts : AccountsBut owed before) (served : Served handle before after)
    (found : before.registry.sessions[id]? = some session) (same : session.handle = handle) :
    Advance (some id) owed before after := by
  have registry : after.registry = before.registry := congrArg Estate.registry served.estate
  constructor
  · exact accounts.of_served served
  · intro other session found
    exact ⟨session, by rw [registry, found], rfl, rfl, fun freed => freed⟩
  · intro other session absent found
    rw [registry, absent] at found
    cases found
  · rcases served.journal with ⟨entries, growth, uses⟩
    refine ⟨entries, growth, ?_⟩
    intro called call listed
    refine ⟨id, session, rfl, by rw [registry, found], ?_⟩
    exact same.trans (uses _ listed).symm

/-- A console's or a cell's business, which no session is part of. -/
theorem of_quiet (accounts : AccountsBut owed before)
    (served : ∀ handle, Served handle before after) : Advance reached owed before after := by
  have estate : after.estate = before.estate := (served 0).estate
  have registry : after.registry = before.registry := congrArg Estate.registry estate
  exact of_references accounts (by rw [registry]) (references_of_estate estate)
    (Served.journal_eq served) (named_of_estate accounts.named estate)

end Advance

variable {reached : Option SessionId} {owed : List SessionId} {host : Host σ}

/-- An advance at whose end the session that was called into is still there. -/
structure Visit (reached : Option SessionId) (before after : Host σ) : Prop where
  advance : Advance reached [] before after
  spares : ∀ id ∈ reached, ∀ session : Session,
    after.registry.sessions[id]? = some session → session.freed = false

namespace Visit

variable {before after : Host σ}

/-- Without a call there is nothing to spare. -/
theorem of_advance (advance : Advance none [] before after) : Visit none before after :=
  ⟨advance, by simp⟩

/-- Where nothing happens everything that stood still stands. -/
theorem stay (settled : host.Settled) (stands : ∀ id ∈ reached, host.Standing id) :
    Visit reached host host := by
  refine ⟨Advance.refl settled, ?_⟩
  intro id isReached session found
  rcases stands id isReached with ⟨same, foundSame, standing⟩
  rw [found, Option.some.injEq] at foundSame
  subst same
  exact standing

/-- A session that came about on the way is there at the end. -/
theorem of_entered {id : SessionId} (advance : Advance (some id) [] before after)
    (absent : before.registry.sessions[id]? = none) : Visit (some id) before after := by
  refine ⟨advance, ?_⟩
  intro other isReached session found
  cases isReached
  have unreleased := advance.entered id session absent found
  apply Bool.eq_false_iff.mpr
  intro freed
  rw [(advance.accounts.safe id session found freed).1] at unreleased
  cases unreleased

theorem of_served {id : SessionId} {session : Session} {handle : Handle}
    (settled : before.Settled) (served : Served handle before after)
    (found : before.registry.sessions[id]? = some session) (same : session.handle = handle)
    (standing : session.freed = false) : Visit (some id) before after := by
  refine ⟨Advance.of_served settled served found same, ?_⟩
  intro other isReached later foundLater
  cases isReached
  have registry : after.registry = before.registry := congrArg Estate.registry served.estate
  rw [registry, found, Option.some.injEq] at foundLater
  subst later
  exact standing

end Visit

theorem say_advance (accounts : AccountsBut owed host) (records : List Log.Record) :
    Advance reached owed host (host.say records) :=
  Advance.of_references accounts rfl rfl rfl accounts.named

/-! ## The end of a reference -/

section Reaping

variable [Engine σ]

theorem getElem?_free (host : Host σ) (id other : SessionId) (handle : Handle) :
    (host.free id handle).registry.sessions[other]? =
      if id = other then
        host.registry.sessions[other]?.map fun session => { session with freed := true }
      else host.registry.sessions[other]? :=
  Registry.getElem?_update host.registry id other _

/-- Tearing down a session that was released and has no holder settles what it
was owed. -/
theorem accounts_free {id : SessionId} {session : Session} (accounts : AccountsBut (id :: owed) host)
    (found : host.registry.sessions[id]? = some session) (released : session.released = true)
    (standing : session.freed = false) (unheld : host.holders id = 0) :
    AccountsBut owed (host.free id session.handle) := by
  have holders (other : SessionId) :
      (host.free id session.handle).holders other = host.holders other := rfl
  constructor
  · intro other later atOther freed
    rw [getElem?_free] at atOther
    rw [holders]
    by_cases same : id = other
    · subst other
      rw [if_pos rfl, found, Option.map_some, Option.some.injEq] at atOther
      subst later
      exact ⟨released, unheld⟩
    · rw [if_neg same] at atOther
      exact accounts.safe other later atOther freed
  · intro other later atOther wasReleased isUnheld notOwed
    rw [getElem?_free] at atOther
    rw [holders] at isUnheld
    by_cases same : id = other
    · subst other
      rw [if_pos rfl, found, Option.map_some, Option.some.injEq] at atOther
      subst later
      rfl
    · rw [if_neg same] at atOther
      apply accounts.prompt other later atOther wasReleased isUnheld
      intro listed
      rcases List.mem_cons.mp listed with equal | listed
      · exact same equal.symm
      · exact notOwed listed
  · intro other held
    rw [holders] at held
    have bound := accounts.known other held
    simpa [free, say, enter, Registry.update] using bound
  · intro handle
    have journal : (host.free id session.handle).journal = .freed session.handle :: host.journal :=
      rfl
    have counted := Registry.tornDown_free found standing handle
    rw [journal, List.count_cons, accounts.counted]
    refine Eq.trans ?_ counted.symm
    by_cases same : session.handle = handle
    · simp [same]
    · have different : (Entry.freed session.handle == .freed handle) = false := by
        simpa using same
      simp [same, different]
  · exact accounts.named

theorem free_advance {id : SessionId} {session : Session}
    (accounts : AccountsBut (id :: owed) host)
    (found : host.registry.sessions[id]? = some session) (released : session.released = true)
    (standing : session.freed = false) (unheld : host.holders id = 0) :
    Advance reached owed host (host.free id session.handle) := by
  refine ⟨accounts_free accounts found released standing unheld, ?_, ?_, ?_⟩
  · intro other before atOther
    by_cases same : id = other
    · refine ⟨{ before with freed := true }, ?_, rfl, rfl, fun _ => rfl⟩
      rw [getElem?_free, if_pos same, atOther, Option.map_some]
    · refine ⟨before, ?_, rfl, rfl, fun freed => freed⟩
      rw [getElem?_free, if_neg same, atOther]
  · intro other later absent atOther
    rw [getElem?_free, absent, Option.map_none, ite_self] at atOther
    cases atOther
  · exact ⟨[.freed session.handle], rfl, by simp⟩

theorem reap_of_due {id : SessionId} {session : Session}
    (found : host.registry.sessions[id]? = some session) (released : session.released = true)
    (standing : session.freed = false) (unheld : host.holders id = 0) :
    host.reap id = host.free id session.handle := by
  simp [reap, found, released, standing, unheld]

/-- Nothing happens to a session that is in order already. -/
theorem reap_of_inOrder {id : SessionId}
    (inOrder : ∀ session, host.registry.sessions[id]? = some session →
      session.released = true → host.holders id = 0 → session.freed = true) :
    host.reap id = host := by
  unfold reap
  cases found : host.registry.sessions[id]? with
  | none => rfl
  | some session =>
      apply if_neg
      intro due
      simp only [Bool.and_eq_true, Bool.not_eq_true', beq_iff_eq] at due
      rcases due with ⟨⟨released, standing⟩, unheld⟩
      rw [inOrder session found released unheld] at standing
      cases standing

/-- Looking at a session settles what it was owed. -/
theorem reap_advance {id : SessionId} (accounts : AccountsBut (id :: owed) host) :
    Advance reached owed host (host.reap id) := by
  by_cases inOrder : ∀ session, host.registry.sessions[id]? = some session →
      session.released = true → host.holders id = 0 → session.freed = true
  · rw [reap_of_inOrder inOrder]
    refine Advance.refl { accounts with prompt := ?_ }
    intro other session found released unheld notOwed
    by_cases same : other = id
    · subst other
      exact inOrder session found released unheld
    · exact accounts.prompt other session found released unheld (by simp [same, notOwed])
  · simp only [Classical.not_forall, Bool.not_eq_true] at inOrder
    rcases inOrder with ⟨session, found, released, unheld, standing⟩
    rw [reap_of_due found released standing unheld]
    exact free_advance accounts found released standing unheld

theorem reap?_advance {id : Option SessionId} (accounts : AccountsBut (id.toList ++ owed) host) :
    Advance reached owed host (host.reap? id) := by
  cases id with
  | none => exact Advance.refl accounts
  | some id => exact reap_advance accounts

end Reaping

end Host

end SessionHost
