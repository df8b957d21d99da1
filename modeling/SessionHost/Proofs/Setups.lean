import SessionHost.Proofs.Frames

namespace SessionHost

/-!
# The setup of a bridge

A bridge is told once what kind of console it is on, how much it may deliver in
one request, what it answers behind the end of its input, and what it does on an
exit event.  Nothing that a host can do changes any of that, neither an operation
of a client nor what an engine asks for while it answers a call.  So whatever
holds of the setups of a host's bridges holds from the host's first state to its
last.
-/

namespace Bridge

/-- What a bridge is told when it is made, and never again. -/
structure Setup where
  interactive : Bool
  maxInput : Nat
  shutdown : Bytes
  hook : ExitHook

def setup (bridge : Bridge) : Setup where
  interactive := bridge.interactive
  maxInput := bridge.maxInput
  shutdown := bridge.shutdown
  hook := bridge.hook

end Bridge

namespace Host

variable {σ : Type} {host before after : Host σ} {handle : Handle}

/-- The setups of all bridges. -/
def setups (host : Host σ) : List Bridge.Setup :=
  host.bridges.map Bridge.setup

/-- The bridges are set up as they were. -/
def Upheld (before after : Host σ) : Prop :=
  after.setups = before.setups

namespace Upheld

variable {first second third : Host σ}

theorem refl (host : Host σ) : Upheld host host :=
  rfl

theorem trans (earlier : Upheld first second) (later : Upheld second third) : Upheld first third :=
  Eq.trans later earlier

theorem of_bridges (same : after.bridges = before.bridges) : Upheld before after :=
  congrArg (List.map Bridge.setup) same

theorem of_served (served : Served handle before after) : Upheld before after := by
  have setup (host : Host σ) : host.setups = host.estate.terms.map fun terms =>
      ⟨terms.interactive, terms.maxInput, terms.shutdown, terms.hook⟩ := by
    unfold setups estate
    rw [List.map_map]
    rfl
  unfold Upheld
  rw [setup, setup, served.estate]

end Upheld

section Holding

variable [Engine σ]

/-- A cancel target is no part of a setup, and of everything else the bridges know
nothing or it comes by way of what an engine asks for. -/
theorem upheld_frame : Frame (Upheld : Host σ → Host σ → Prop) where
  refl := Upheld.refl
  trans := Upheld.trans
  aside := fun same => Upheld.of_bridges (congrArg Substance.bridges same)
  served := Upheld.of_served
  bound := fun _ found => map_setBridge Bridge.setup found rfl
  marked := fun _ _ => rfl
  freed := fun _ _ _ _ => rfl
  created := fun host => (acquire_leaves_created host).mono fun _ created =>
    Upheld.of_bridges created.bridges

theorem start_upheld (driver : Driver) (bootstrap : Bootstrap) (host : Host σ) :
    Hosting.Leaves (start driver bootstrap) host (Upheld host) :=
  upheld_frame.start_related driver bootstrap host

theorem step_upheld (driver : Driver) (host : Host σ) :
    Hosting.Leaves (step driver) host (Upheld host) :=
  upheld_frame.step_related driver host

theorem afterAll_upheld (operations : List Operation) (host : Host σ) :
    Upheld host (host.afterAll operations) :=
  upheld_frame.afterAll_related operations host

end Holding

end Host

end SessionHost
