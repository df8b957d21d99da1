import SessionHost.Registry.Basic

namespace SessionHost

/-!
# Cancel counters

A counter is the permission to ask one instance for a break.  It stands for a
lease on the session, which keeps the instance alive, and it names the break
cell by the instance that publishes it.  Two counters of one instance name the
same cell.
-/

structure Counter where
  session : SessionId
  /-- The instance whose break cell is meant. -/
  handle : Handle
deriving DecidableEq, Repr

/-- The version of the layout that an instance's break cell follows. -/
def breakContractVersion : Nat := 1

namespace Counter

/-- The debugging text of a counter; its address is shown in hexadecimal. -/
def describe (counter : Counter) : String :=
  "CancelCounter \x7b cell: 0x" ++ String.ofList (Nat.toDigits 16 counter.handle) ++ ", .. \x7d"

/-- The debugging text of the guard that armed a counter. -/
def describeArmed (counter : Counter) : String :=
  "ArmedInterrupt \x7b counter: " ++ counter.describe ++ " \x7d"

end Counter

end SessionHost
