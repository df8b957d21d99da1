import SessionHost.Proofs.Exits
import SessionHost.Proofs.Frames

namespace SessionHost

/-!
# What is submitted first

A session that is hosted from start to end may come to its end in many ways: it may
not get as far as its bootstrap sentence, it may be ended by an exit hook or a signal
in the middle of a call, or it may never end.  In each of them the bootstrap sentence
is the first that was submitted, if any was.  Until then nothing else is submitted,
and of what was submitted nothing is taken back.
-/

namespace Host

variable {σ : Type} {host before after middle : Host σ} {sentence : Bytes}

/-- What was submitted in between begins with this sentence, if it is anything. -/
def Begins (sentence : Bytes) (before after : Host σ) : Prop :=
  after.submissions = before.submissions ∨
    ∃ handle, before.submissions ++ [(handle, sentence)] <+: after.submissions

namespace Begins

theorem of_same (same : after.submissions = before.submissions) : Begins sentence before after :=
  .inl same

theorem of_submitted {handle : Handle}
    (submitted : middle.submissions = before.submissions ++ [(handle, sentence)])
    (kept : middle.submissions <+: after.submissions) : Begins sentence before after :=
  .inr ⟨handle, submitted ▸ kept⟩

end Begins

/-- A longer journal has all submissions of a shorter one, and in the same order. -/
theorem submissions_prefix {entries : List Entry}
    (growth : after.journal = entries ++ before.journal) :
    before.submissions <+: after.submissions := by
  unfold submissions
  rw [growth, List.filterMap_append, List.reverse_append]
  exact List.prefix_append _ _

variable [Engine σ]

/-- No submission is taken back. -/
theorem submitting_frame :
    Frame fun before after : Host σ => before.submissions <+: after.submissions where
  refl := fun _ => List.prefix_rfl
  trans := List.IsPrefix.trans
  aside := by
    intro before after same
    have journal : after.journal = [] ++ before.journal := congrArg Substance.journal same
    exact submissions_prefix journal
  served := by
    intro handle before after served
    rcases served.journal with ⟨entries, growth, _⟩
    exact submissions_prefix growth
  bound := fun _ _ => List.prefix_rfl
  marked := fun _ _ => List.prefix_rfl
  freed := by
    intro host id session _
    have journal : (host.free id session.handle).journal =
        [.freed session.handle] ++ host.journal := rfl
    exact submissions_prefix journal
  created := fun host => (acquire_quiet host).mono fun _ quiet =>
    quiet.submissions ▸ List.prefix_rfl

/-! ## Starting -/

/-- Wiring a session calls its engine, but submits nothing. -/
theorem wire_submissions (driver : Driver) (id : SessionId) (handle : Handle) (host : Host σ) :
    Hosting.Leaves (wire driver id handle) host fun after =>
      after.submissions = host.submissions := by
  have called : Hosting.Leaves (call handle (.setCallbacks .console))
      (host.register (.at handle) driver.bridge).2 fun after =>
        after.submissions = host.submissions :=
    (call_submissions _ _).mono fun _ submitted => submitted.trans (List.append_nil _)
  unfold wire
  rw [Hosting.leaves_modifyGet_bind]
  apply called.bind
  intro _ wired unsubmitted
  exact (attach_quiet wired _ _ _ _).submissions.trans unsubmitted

/-- A start that succeeds has submitted the bootstrap sentence and nothing else, and
one that is refused has submitted nothing. -/
theorem start_begins (driver : Driver) (bootstrap : Bootstrap) (host : Host σ) :
    Hosting.Leads (start driver bootstrap) host
      (fun answer after =>
        match answer.1 with
        | .ok _ => ∃ handle, after.submissions =
            host.submissions ++ [(handle, Bytes.ofString bootstrap.sentence)]
        | .error _ => after.submissions = host.submissions)
      (fun _ after => Begins (Bytes.ofString bootstrap.sentence) host after) := by
  unfold start
  split
  · exact rfl
  dsimp only
  split
  · exact rfl
  rw [Hosting.leads_bind]
  refine Hosting.Leads.mono (acquire_quiet host) ?_ fun _ _ quiet => .of_same quiet.submissions
  intro answer entered quiet
  have silent : entered.submissions = host.submissions := quiet.submissions
  cases answer with
  | error error => exact silent
  | ok id =>
      simp only [Hosting.leads_bind, Hosting.leads_get]
      cases entered.registry.sessions[id]? with
      | none => exact silent
      | some session =>
          simp only [Hosting.leads_bind, Hosting.leads_modify]
          refine Hosting.Leads.mono (wire_submissions driver id session.handle entered) ?_
            fun _ _ same => .of_same (same.trans silent)
          intro active wired same
          have unsubmitted (records : List Log.Record) :
              (wired.say records).submissions = host.submissions := same.trans silent
          refine Hosting.Leads.mono (call_submissions _ _) ?_ ?_
          · intro status executed submitted
            rw [unsubmitted] at submitted
            exact ⟨session.handle, submitted⟩
          · intro halt executed submitted
            rw [unsubmitted] at submitted
            exact .of_submitted submitted List.prefix_rfl

/-! ## The whole session -/

theorem serve_begins (steps : Nat) (bridge : BridgeId) (options : DriverOptions)
    (bootstrap : Bootstrap) (host : Host σ) :
    Hosting.Leaves (serve steps bridge options bootstrap) host
      (Begins (Bytes.ofString bootstrap.sentence) host) := by
  have ended (driver : Driver) (last : Host σ) :
      ((last.dismiss driver).shutDown).submissions = last.submissions :=
    (dismiss_still last driver).submissions
  unfold serve Hosting.Leaves
  rw [Hosting.leads_bind]
  refine Hosting.Leads.mono
    (leads_owningTable (start_begins { bridge, options } bootstrap host) fun _ begins => begins) ?_
    fun _ _ begins => begins
  rintro ⟨answer, driver⟩ started submitted
  cases answer with
  | error error => exact .of_same ((ended driver started).trans submitted)
  | ok id =>
      rcases submitted with ⟨handle, submitted⟩
      rw [Hosting.leads_bind]
      refine Hosting.Leads.mono (submitting_frame.run_related steps driver started) ?_ ?_
      · intro result last kept
        exact .of_submitted submitted ((ended driver last).symm ▸ kept)
      · intro halt last kept
        exact .of_submitted submitted kept

end Host

end SessionHost
