import SessionHost.Proofs.Lifetime
import SessionHost.Proofs.Service

namespace SessionHost

/-!
# The ledger of the session table

What the table answers depends on very little of what the host has been
through.  The ledger is that little: the table without the marks of teardown,
and the instances that the factory gave, in order.  Looking up, calling and
tearing down leave the ledger alone; a release and a creation change it, each
in one place.
-/

/-- The instance that an entry of the journal says the factory gave. -/
def Entry.produced? : Entry → Option Handle
  | .created handle => handle
  | _ => none

namespace Registry

/-- A table without the marks of teardown. -/
def unmarked (registry : Registry) : Registry :=
  { registry with
    sessions := registry.sessions.map fun session => { session with freed := false } }

theorem getElem?_unmarked (registry : Registry) (id : SessionId) :
    registry.unmarked.sessions[id]? =
      registry.sessions[id]?.map fun session => { session with freed := false } :=
  Array.getElem?_map ..

theorem unmarked_free (registry : Registry) (id : SessionId) :
    (registry.update id fun session => { session with freed := true }).unmarked =
      registry.unmarked := by
  have sessions : (registry.update id fun session => { session with freed := true }).unmarked.sessions =
      registry.unmarked.sessions := by
    apply Array.ext_getElem?
    intro other
    rw [getElem?_unmarked, getElem?_unmarked, getElem?_update]
    split
    · rw [Option.map_map]
      rfl
    · rfl
  exact congrArg (fun sessions => { registry with sessions }) sessions

theorem unmarked_marked (registry : Registry) (id : SessionId) :
    (registry.marked id).unmarked = registry.unmarked.marked id := by
  have sessions : (registry.marked id).unmarked.sessions = (registry.unmarked.marked id).sessions := by
    apply Array.ext_getElem?
    intro other
    rw [getElem?_unmarked, getElem?_marked, getElem?_marked, getElem?_unmarked]
    split
    · rw [Option.map_map, Option.map_map]
      rfl
    · rfl
  exact congrArg (fun sessions => { registry with sessions }) sessions

theorem size_unmarked (registry : Registry) : registry.unmarked.size = registry.size :=
  Array.size_map

theorem needed_unmarked (registry : Registry) : registry.unmarked.needed = registry.needed := by
  unfold needed
  rw [size_unmarked]
  rfl

theorem inChunks_unmarked (registry : Registry) :
    registry.unmarked.InChunks ↔ registry.InChunks := by
  constructor
  · intro chunks
    refine ⟨chunks.chunk, chunks.capacity, ?_, ?_⟩
    · rw [← size_unmarked]
      exact chunks.filled
    · rw [← size_unmarked]
      exact chunks.fits
  · intro chunks
    refine ⟨chunks.chunk, chunks.capacity, ?_, ?_⟩
    · rw [size_unmarked]
      exact chunks.filled
    · rw [size_unmarked]
      exact chunks.fits

theorem unmarked_extended (registry : Registry) :
    registry.extended.unmarked = registry.unmarked.extended := by
  unfold extended
  rw [needed_unmarked, size_unmarked]
  rfl

theorem unmarked_enter (registry : Registry) (handle : Handle) :
    (registry.enter handle).unmarked = registry.unmarked.enter handle := by
  unfold enter unmarked
  dsimp only
  rw [Array.map_push]

theorem lookup_unmarked (registry : Registry) (raw : Int) :
    registry.unmarked.lookup raw = registry.lookup raw := by
  unfold lookup
  cases sessionId raw with
  | error error => rfl
  | ok id =>
      simp only [getElem?_unmarked]
      cases registry.sessions[id]? with
      | none => rfl
      | some session => rfl

end Registry

namespace Host

variable {σ : Type}

/-- The instances that the factory has given, in order. -/
def produced (host : Host σ) : List Handle :=
  (host.journal.filterMap Entry.produced?).reverse

/-- What the answers of the session table depend on. -/
structure Ledger where
  registry : Registry
  opened : Bool
  produced : List Handle

def ledger (host : Host σ) : Ledger where
  registry := host.registry.unmarked
  opened := host.opened
  produced := host.produced

variable {before after host : Host σ}

theorem produced_enter (host : Host σ) (entry : Entry) :
    (host.enter entry).produced = host.produced ++ entry.produced?.toList := by
  unfold produced enter
  rw [List.filterMap_cons]
  cases entry.produced? with
  | none => simp
  | some handle => simp

/-- The ledger after an instance was entered into the extended table. -/
theorem ledger_enterSession (extended : host.registry = before.registry.extended)
    (opened : host.opened = before.opened) (journal : host.journal = before.journal)
    (handle : Handle) :
    (host.enterSession handle).2.ledger =
      { before.ledger with
        registry := before.ledger.registry.extended.enter handle
        produced := before.ledger.produced ++ [handle] } := by
  have table : (host.enterSession handle).2.registry.unmarked =
      before.registry.unmarked.extended.enter handle := by
    rw [← Registry.unmarked_extended, ← Registry.unmarked_enter, ← extended]
    rfl
  have produced : (host.enterSession handle).2.produced = before.produced ++ [handle] := by
    have entered := produced_enter host (.created (some handle))
    unfold Host.produced at entered ⊢
    rw [← journal]
    exact entered
  have same : (host.enterSession handle).2.opened = before.opened := opened
  unfold ledger
  rw [table, produced, same]

/-- A call creates nothing. -/
theorem ledger_of_served {handle : Handle} (served : Served handle before after) :
    after.ledger = before.ledger := by
  have registry : after.registry = before.registry := congrArg Estate.registry served.estate
  have opened : after.opened = before.opened := congrArg Estate.opened served.estate
  have produced : after.produced = before.produced := by
    rcases served.journal with ⟨entries, growth, uses⟩
    have none : entries.filterMap Entry.produced? = [] := by
      apply List.filterMap_eq_nil_iff.mpr
      intro entry listed
      have use := uses entry listed
      cases entry with
      | created handle => cases use
      | called _ _ => rfl
      | freed _ => rfl
      | noted _ _ => rfl
    unfold Host.produced
    rw [growth, List.filterMap_append, none, List.nil_append]
  unfold ledger
  rw [registry, opened, produced]

variable [Engine σ]

theorem ledger_reap (host : Host σ) (id : SessionId) : (host.reap id).ledger = host.ledger := by
  apply reap_keeps fun next => next.ledger = host.ledger
  · intro session found
    have table : (host.free id session.handle).registry.unmarked = host.registry.unmarked :=
      Registry.unmarked_free host.registry id
    have produced : (host.free id session.handle).produced = host.produced := rfl
    unfold ledger
    rw [table, produced]
    rfl
  · rfl

theorem ledger_reap? (host : Host σ) (id : Option SessionId) :
    (host.reap? id).ledger = host.ledger := by
  cases id with
  | none => rfl
  | some id => exact ledger_reap host id

end Host

end SessionHost
