import SessionHost.Client.Operation

namespace SessionHost

/-!
# The outcome of a host's computation

A computation of a host returns or halts, and either way it leaves a state
behind.  `Leads` says what holds of the two outcomes.  Its rules follow the
constructors of a computation, so a property of a composite one is taken apart
into properties of its parts without looking into how states are threaded.

A run performs one operation after another.  It goes on from the state that an
operation left behind even where the operation halted: a factory that unwound
may have been caught by the client, and a process that has ended has only fewer
runs than are considered here.
-/

namespace Hosting

variable {σ α β : Type}

/-- One condition where a computation returns, and one where it halts. -/
def Leads (action : Hosting σ α) (host : Host σ)
    (returns : α → Host σ → Prop) (halts : Halt → Host σ → Prop) : Prop :=
  match action host with
  | .ok value after => returns value after
  | .error halt after => halts halt after

/-- A condition on the state that is left behind, however the computation ends. -/
def Leaves (action : Hosting σ α) (host : Host σ) (property : Host σ → Prop) : Prop :=
  Leads action host (fun _ => property) (fun _ => property)

section Rules

variable {host : Host σ} {returns : β → Host σ → Prop} {halts : Halt → Host σ → Prop}

@[simp]
theorem leads_pure (value : β) :
    Leads (pure value) host returns halts ↔ returns value host :=
  Iff.rfl

@[simp]
theorem leads_bind (first : Hosting σ α) (next : α → Hosting σ β) :
    Leads (first >>= next) host returns halts ↔
      Leads first host (fun value => (Leads (next value) · returns halts)) halts := by
  simp only [Leads, bind, EStateM.bind]
  cases first host with
  | ok value after => rfl
  | error halt after => rfl

@[simp]
theorem leads_map (first : Hosting σ α) (transform : α → β) :
    Leads (transform <$> first) host returns halts ↔
      Leads first host (fun value => returns (transform value)) halts := by
  simp only [Leads, Functor.map, EStateM.map]
  cases first host with
  | ok value after => rfl
  | error halt after => rfl

@[simp]
theorem leads_throw (halt : Halt) :
    Leads (throw halt) host returns halts ↔ halts halt host :=
  Iff.rfl

@[simp]
theorem leads_modifyGet (change : Host σ → β × Host σ) :
    Leads (modifyGet change) host returns halts ↔
      returns (change host).1 (change host).2 :=
  Iff.rfl

end Rules

section StateRules

variable {host : Host σ} {halts : Halt → Host σ → Prop}

@[simp]
theorem leads_get (returns : Host σ → Host σ → Prop) :
    Leads get host returns halts ↔ returns host host :=
  Iff.rfl

@[simp]
theorem leads_set (after : Host σ) (returns : PUnit → Host σ → Prop) :
    Leads (set after) host returns halts ↔ returns ⟨⟩ after :=
  Iff.rfl

@[simp]
theorem leads_modify (change : Host σ → Host σ) (returns : PUnit → Host σ → Prop) :
    Leads (modify change) host returns halts ↔ returns ⟨⟩ (change host) :=
  Iff.rfl

end StateRules

theorem get_bind (next : Host σ → Hosting σ β) (host : Host σ) :
    (get >>= next) host = next host host :=
  rfl

theorem set_bind (after : Host σ) (next : PUnit → Hosting σ β) (host : Host σ) :
    (set after >>= next) host = next ⟨⟩ after :=
  rfl

theorem modify_bind (change : Host σ → Host σ) (next : PUnit → Hosting σ β) (host : Host σ) :
    (modify change >>= next) host = next ⟨⟩ (change host) :=
  rfl

theorem modifyGet_bind (change : Host σ → α × Host σ) (next : α → Hosting σ β) (host : Host σ) :
    (modifyGet change >>= next) host = next (change host).1 (change host).2 :=
  rfl

theorem bind_of_ok {first : Hosting σ α} {host middle : Host σ} {between : α}
    (reached : first host = .ok between middle) (next : α → Hosting σ β) :
    (first >>= next) host = next between middle := by
  simp only [bind, EStateM.bind, reached]

/-- A composite computation returns only by way of what its first part returns. -/
theorem bind_eq_ok {first : Hosting σ α} {next : α → Hosting σ β} {host after : Host σ} {value : β}
    (outcome : (first >>= next) host = .ok value after) :
    ∃ between middle, first host = .ok between middle ∧ next between middle = .ok value after := by
  simp only [bind, EStateM.bind] at outcome
  cases reached : first host with
  | ok between middle =>
      rw [reached] at outcome
      exact ⟨between, middle, rfl, outcome⟩
  | error halt middle =>
      rw [reached] at outcome
      cases outcome

theorem map_eq_ok {first : Hosting σ α} {transform : α → β} {host after : Host σ} {value : β}
    (outcome : (transform <$> first) host = .ok value after) :
    ∃ between, first host = .ok between after ∧ value = transform between := by
  simp only [Functor.map, EStateM.map] at outcome
  cases reached : first host with
  | ok between middle =>
      rw [reached] at outcome
      cases outcome
      exact ⟨between, rfl, rfl⟩
  | error halt middle =>
      rw [reached] at outcome
      cases outcome

/-- Weaker conditions hold wherever stronger ones do. -/
theorem Leads.mono {action : Hosting σ α} {host : Host σ}
    {returns weaker : α → Host σ → Prop} {halts weakerHalts : Halt → Host σ → Prop}
    (leads : Leads action host returns halts)
    (onReturn : ∀ value after, returns value after → weaker value after)
    (onHalt : ∀ halt after, halts halt after → weakerHalts halt after) :
    Leads action host weaker weakerHalts := by
  unfold Leads at leads ⊢
  cases outcome : action host with
  | ok value after =>
      rw [outcome] at leads
      exact onReturn value after leads
  | error halt after =>
      rw [outcome] at leads
      exact onHalt halt after leads

theorem Leaves.mono {action : Hosting σ α} {host : Host σ} {property weaker : Host σ → Prop}
    (leaves : Leaves action host property) (later : ∀ after, property after → weaker after) :
    Leaves action host weaker :=
  Leads.mono leaves (fun _ => later) fun _ => later

theorem Leaves.and {action : Hosting σ α} {host : Host σ} {property further : Host σ → Prop}
    (leaves : Leaves action host property) (leavesFurther : Leaves action host further) :
    Leaves action host fun after => property after ∧ further after := by
  unfold Leaves Leads at leaves leavesFurther ⊢
  cases outcome : action host with
  | ok value after =>
      rw [outcome] at leaves leavesFurther
      exact ⟨leaves, leavesFurther⟩
  | error halt after =>
      rw [outcome] at leaves leavesFurther
      exact ⟨leaves, leavesFurther⟩

theorem Leaves.all {ι : Type} {action : Hosting σ α} {host : Host σ} {property : ι → Host σ → Prop}
    (leaves : ∀ index, Leaves action host (property index)) :
    Leaves action host fun after => ∀ index, property index after := by
  unfold Leaves Leads at leaves ⊢
  cases outcome : action host with
  | ok value after =>
      rw [outcome] at leaves
      exact leaves
  | error halt after =>
      rw [outcome] at leaves
      exact leaves

section LeavesRules

variable {host : Host σ} {property : Host σ → Prop}

@[simp]
theorem leaves_get_bind (next : Host σ → Hosting σ β) :
    Leaves (get >>= next) host property ↔ Leaves (next host) host property :=
  Iff.rfl

@[simp]
theorem leaves_set_bind (after : Host σ) (next : PUnit → Hosting σ β) :
    Leaves (set after >>= next) host property ↔ Leaves (next ⟨⟩) after property :=
  Iff.rfl

@[simp]
theorem leaves_modify_bind (change : Host σ → Host σ) (next : PUnit → Hosting σ β) :
    Leaves (modify change >>= next) host property ↔ Leaves (next ⟨⟩) (change host) property :=
  Iff.rfl

@[simp]
theorem leaves_modifyGet_bind (change : Host σ → α × Host σ) (next : α → Hosting σ β) :
    Leaves (modifyGet change >>= next) host property ↔
      Leaves (next (change host).1) (change host).2 property :=
  Iff.rfl

@[simp]
theorem leaves_map (first : Hosting σ α) (transform : α → β) :
    Leaves (transform <$> first) host property ↔ Leaves first host property :=
  leads_map first transform

end LeavesRules

/-- What each part of a computation leaves behind, the whole does. -/
theorem Leaves.bind {first : Hosting σ α} {next : α → Hosting σ β} {host : Host σ}
    {property : Host σ → Prop} (leaves : Leaves first host property)
    (onward : ∀ value after, property after → Leaves (next value) after property) :
    Leaves (first >>= next) host property :=
  (leads_bind first next).mpr (Leads.mono leaves onward fun _ _ => id)

theorem Leads.of_ok {action : Hosting σ α} {host after : Host σ} {value : α}
    {returns : α → Host σ → Prop} {halts : Halt → Host σ → Prop}
    (leads : Leads action host returns halts) (outcome : action host = .ok value after) :
    returns value after := by
  unfold Leads at leads
  rw [outcome] at leads
  exact leads

theorem Leaves.of_ok {action : Hosting σ α} {host after : Host σ} {value : α}
    {property : Host σ → Prop} (leaves : Leaves action host property)
    (outcome : action host = .ok value after) : property after :=
  Leads.of_ok leaves outcome

end Hosting

namespace Host

variable {σ : Type}

theorem withTable_of_opened {host : Host σ} (opened : host.opened = true) (action : Hosting σ Answer) :
    withTable action host = action host := by
  unfold withTable
  rw [Hosting.get_bind, if_pos opened]

theorem leaves_withTable_of_opened {host : Host σ} (opened : host.opened = true)
    {action : Hosting σ Answer} {property : Host σ → Prop} :
    Hosting.Leaves (withTable action) host property ↔ Hosting.Leaves action host property := by
  unfold Hosting.Leaves Hosting.Leads
  rw [withTable_of_opened opened]

/-- Losing the table on the way out is no loss to what held before. -/
theorem leads_owningTable {α : Type} {action : Hosting σ α} {host : Host σ}
    {returns : α → Host σ → Prop} {halts : Halt → Host σ → Prop}
    (leads : Hosting.Leads action host returns halts)
    (closes : ∀ next, halts .unwound next → halts .unwound { next with opened := false }) :
    Hosting.Leads (owningTable action) host returns halts := by
  unfold Hosting.Leads at leads ⊢
  unfold owningTable
  cases outcome : action host with
  | ok value next =>
      rw [outcome] at leads
      exact leads
  | error halt next =>
      rw [outcome] at leads
      cases halt with
      | unwound => exact closes next leads
      | exited status => exact leads
      | killed signal => exact leads
      | stuck => exact leads

/-- An exit event in one piece: the event is recorded and the hook has been invoked
before the process ends, if it does. -/
theorem exitEvent_eq (id : BridgeId) (status : Int32) :
    exitEvent id status = (do
      let host : Host σ ← get
      match host.bridges[id]? with
      | none => return ()
      | some bridge =>
        set ((host.setBridge id (bridge.exit status).1).say (bridge.exit status).2)
        if bridge.hook = .terminate then throw (.exited status)) := by
  funext host
  cases found : host.bridges[id]? with
  | none =>
      have nothing : recordExit id status host = .ok () host := by
        unfold recordExit
        rw [Hosting.get_bind, found]
        rfl
      unfold exitEvent
      rw [Hosting.bind_of_ok nothing, Hosting.get_bind, invokeHook, Hosting.get_bind, found]
  | some bridge =>
      let recorded := (host.setBridge id (bridge.recordExit status).1).say
        (bridge.recordExit status).2
      have record : recordExit id status host = .ok () recorded := by
        unfold recordExit
        rw [Hosting.get_bind, found]
        rfl
      have here : recorded.bridges[id]? = some (bridge.recordExit status).1 :=
        List.getElem?_set_self (List.getElem?_eq_some_iff.mp found).1
      have twice : recorded.setBridge id ((bridge.recordExit status).1.invokeHook status) =
          (host.setBridge id (bridge.exit status).1).say (bridge.exit status).2 :=
        congrArg (fun bridges => { recorded with bridges }) (List.set_set ..)
      unfold exitEvent
      rw [Hosting.bind_of_ok record, Hosting.get_bind, invokeHook, Hosting.get_bind, found, here]
      dsimp only
      rw [twice]
      rfl

/-- The host on a machine with this memory. -/
def onMachine (host : Host σ) (memory : Memory) : Host σ :=
  { host with registry := { host.registry with memory } }

variable [Engine σ]

/-- The state that an operation leaves behind, also where it does not come back. -/
def after (host : Host σ) (operation : Operation) : Host σ :=
  match perform operation host with
  | .ok _ next => next
  | .error _ next => next

/-- What an operation comes back with, or why it does not. -/
def outcome (host : Host σ) (operation : Operation) : Except Halt Answer :=
  match perform operation host with
  | .ok answer _ => .ok answer
  | .error halt _ => .error halt

/-- The state at the end of a run. -/
def afterAll (host : Host σ) (operations : List Operation) : Host σ :=
  operations.foldl after host

theorem after_of_leaves {host : Host σ} {operation : Operation} {property : Host σ → Prop}
    (leaves : Hosting.Leaves (perform operation) host property) :
    property (host.after operation) := by
  unfold Hosting.Leaves Hosting.Leads at leaves
  unfold after
  cases outcome : perform operation host with
  | ok value next =>
      rw [outcome] at leaves
      exact leaves
  | error halt next =>
      rw [outcome] at leaves
      exact leaves

/-- What every operation preserves holds at the end of every run. -/
theorem afterAll_of_preserved (property : Host σ → Prop)
    (preserved : ∀ host operation, property host → property (host.after operation))
    {host : Host σ} (initially : property host) (operations : List Operation) :
    property (host.afterAll operations) := by
  induction operations generalizing host with
  | nil => exact initially
  | cons operation rest inductionHypothesis =>
      exact inductionHypothesis (preserved host operation initially)

end Host

end SessionHost
