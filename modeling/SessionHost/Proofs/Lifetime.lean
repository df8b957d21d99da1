import SessionHost.Proofs.Hosting
import SessionHost.Proofs.Table

namespace SessionHost

/-!
# The course of a creation and of a release

A creation either stops at the table, and then the factory is not asked, or it
goes on to ask the factory once.  A session that is attached to a bridge has its
counter bound there and perhaps armed.  A release either finds no session, and
then it does nothing, or it marks the session and looks at it.  Diagnostics
apart, this is all that happens to the state.
-/

namespace Host

variable {σ : Type}

/-- What a creation may change: the engine with its cells, the table, and what is said. -/
def Creates (before after : Host σ) : Prop :=
  after = { before with
    engine := after.engine
    cells := after.cells
    registry := after.registry
    journal := after.journal
    log := after.log }

theorem Creates.bridges {before after : Host σ} (created : before.Creates after) :
    after.bridges = before.bridges := by
  rw [Creates] at created
  rw [created]

theorem Creates.drivers {before after : Host σ} (created : before.Creates after) :
    after.drivers = before.drivers := by
  rw [Creates] at created
  rw [created]

/-- A host with one session marked as released. -/
def marked (host : Host σ) (id : SessionId) : Host σ :=
  { host with registry := host.registry.marked id }

variable [Engine σ] {host : Host σ}

/-- The table refuses, and the engine is left alone. -/
theorem acquire_of_refused {error : RegistryError}
    (refused : host.registry.prepare.1 = .error error) :
    ∃ records, acquire host =
      .ok (.error error) ({ host with registry := host.registry.prepare.2 }.say records) := by
  unfold acquire
  rw [Hosting.modifyGet_bind]
  simp only [refused]
  by_cases abandoned : error = .lockAbandoned
  · rw [if_pos abandoned]
    exact ⟨[_], rfl⟩
  · rw [if_neg abandoned]
    exact ⟨[], rfl⟩

/-- The table is ready, and the factory decides. -/
theorem acquire_of_ready (ready : host.registry.prepare.1 = .ok ()) :
    ∃ records, acquire host =
      takeCreation (Engine.create host.engine host.cells.size).1
        ({ host with
            registry := host.registry.prepare.2
            engine := (Engine.create host.engine host.cells.size).2 }.say records) := by
  unfold acquire
  rw [Hosting.modifyGet_bind]
  simp only [ready]
  by_cases grown : host.registry.growths < host.registry.prepare.2.growths
  · simp only [if_pos grown]
    exact ⟨[_], rfl⟩
  · simp only [if_neg grown]
    exact ⟨[], rfl⟩

/-- Everything else is as it was behind a creation, even one that unwinds, and it halts in
no other way. -/
theorem acquire_creates (host : Host σ) :
    Hosting.Leads acquire host (fun _ => Creates host)
      fun halt after => halt = .unwound ∧ Creates host after := by
  unfold Hosting.Leads
  cases prepared : host.registry.prepare.1 with
  | error error =>
      rcases acquire_of_refused prepared with ⟨records, outcome⟩
      rw [outcome]
      rfl
  | ok ready =>
      rcases acquire_of_ready prepared with ⟨records, outcome⟩
      rw [outcome]
      cases (Engine.create host.engine host.cells.size).1 with
      | fresh cell => rfl
      | again handle => rfl
      | nothing => rfl
      | unwound => exact ⟨rfl, rfl⟩

theorem acquire_leaves_created (host : Host σ) : Hosting.Leaves acquire host (Creates host) :=
  (acquire_creates host).mono (fun _ _ created => created) fun _ _ unwound => unwound.2

theorem reap_keeps {id : SessionId} (property : Host σ → Prop)
    (onFree : ∀ session, host.registry.sessions[id]? = some session →
      property (host.free id session.handle))
    (initially : property host) : property (host.reap id) := by
  unfold reap
  cases found : host.registry.sessions[id]? with
  | none => exact initially
  | some session =>
      dsimp only
      split
      · exact onFree session found
      · exact initially

theorem setCancelTarget_keeps {id : BridgeId} {counter : Option Counter} (property : Host σ → Prop)
    (onPut : ∀ bridge, host.bridges[id]? = some bridge →
      property (host.setBridge id { bridge with cancel := counter }))
    (onReap : ∀ next session, property next → property (next.reap session))
    (initially : property host) : property (host.setCancelTarget id counter) := by
  unfold setCancelTarget
  cases found : host.bridges[id]? with
  | none => exact initially
  | some bridge =>
      dsimp only
      cases bridge.cancel with
      | none => exact onPut bridge found
      | some held => exact onReap _ held.session (onPut bridge found)

theorem attach_keeps {bridge : BridgeId} {session : SessionId} {counter interrupt : Option Counter}
    (property : Host σ → Prop)
    (onSay : ∀ next records, property next → property (next.say records))
    (onBind : ∀ next, property next → property (next.setCancelTarget bridge counter))
    (onTake : ∀ next, property next → ∀ held ∈ interrupt, property (next.takeInterrupts held))
    (initially : property host) : property (host.attach bridge session counter interrupt) := by
  unfold attach
  cases counter with
  | none =>
      have bound (records : List Log.Record) := onBind _ (onSay host records initially)
      cases interrupt with
      | none => exact bound _
      | some held => exact onTake _ (bound _) held rfl
  | some target =>
      have bound := onBind host initially
      cases interrupt with
      | none => exact bound
      | some held => exact onTake _ bound held rfl

theorem release_of_refused {raw : Int} {error : RegistryError}
    (refused : host.registry.lookup raw = .error error) :
    host.release raw = (.error error, host) := by
  unfold release Registry.release
  rw [refused]

theorem release_of_found {raw : Int} {id : SessionId} (found : host.registry.lookup raw = .ok id) :
    ∃ records, host.release raw = (.ok id, ((host.marked id).say records).reap id) := by
  unfold release Registry.release
  rw [found]
  exact ⟨_, rfl⟩

end Host

end SessionHost
