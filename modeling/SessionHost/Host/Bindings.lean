namespace SessionHost

/-!
# Names for things that are held

A client of the host keeps the leases, counters, guards, routes and drivers it
was given under names of its own, each kind with names to itself.  Binding a
name that is taken displaces what it stood for, and the displaced thing is
handed back, because letting go of it has consequences.
-/

/-- Things of one kind under their names, without two things of one name. -/
abbrev Bindings (α : Type) := List (String × α)

namespace Bindings

variable {α : Type}

def find? (bindings : Bindings α) (name : String) : Option α :=
  bindings.lookup name

/-- The things that are held, whatever they are called. -/
def held (bindings : Bindings α) : List α :=
  bindings.map Prod.snd

def remove (bindings : Bindings α) (name : String) : Bindings α :=
  bindings.filter fun entry => entry.1 != name

def bind (bindings : Bindings α) (name : String) (thing : α) : Bindings α :=
  bindings.remove name ++ [(name, thing)]

end Bindings

end SessionHost
