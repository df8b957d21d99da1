import SessionHost.Text.Bytes

namespace SessionHost

/-!
# Paths

A path is a byte string in which slashes separate names.  The file tree
follows every name that is written, a single dot included, and pays heed to a
slash at the end.

Where a path is taken apart without looking at any file, what adds nothing at
its end is dropped first: slashes, and single dots behind a slash.  All that
stands before the end is kept as it was written.
-/

/-- A path as it was written. -/
abbrev Path := Bytes

namespace Path

def slash : UInt8 := 0x2F

def dot : UInt8 := 0x2E

/-- The name that leads nowhere. -/
def here : Bytes := [dot]

/-- The name that leads to the directory above. -/
def above : Bytes := [dot, dot]

def isAbsolute (path : Path) : Bool :=
  path.head? = some slash

def endsInSlash (path : Path) : Bool :=
  path.getLast? = some slash

/-- The names of a path in their order, without the empty ones. -/
def names (path : Path) : List Bytes :=
  (path.splitOn slash).filter (!·.isEmpty)

/-! ## The end of a path -/

/-- Drop what adds nothing from the end of a path that is given backwards.  A
slash alone and a dot alone are whole paths and stay. -/
def trimBackwards : Bytes → Bytes
  | [] => []
  | [byte] => [byte]
  | last :: before :: rest =>
    if last = slash || (last = dot && before = slash) then trimBackwards (before :: rest)
    else last :: before :: rest

/-- The path without its last name; a path without names has no parent. -/
def parent? (path : Path) : Option Path :=
  match trimBackwards path.reverse with
  | [] => none
  | last :: before =>
    if last = slash then none
    else some (trimBackwards (before.dropWhile (· != slash))).reverse

/-- The last name, if it names something by itself. -/
def fileName? (path : Path) : Option Bytes :=
  let name := ((trimBackwards path.reverse).takeWhile (· != slash)).reverse
  if name.isEmpty || name = here || name = above then none else some name

theorem trimBackwards_length (path : Bytes) :
    (trimBackwards path).length ≤ path.length := by
  fun_induction trimBackwards path with
  | case1 => simp
  | case2 => simp
  | case3 last before rest _ ih => exact Nat.le_succ_of_le ih
  | case4 => simp

theorem parent?_length {path parent : Path} (found : path.parent? = some parent) :
    parent.length < path.length := by
  unfold parent? at found
  split at found
  · simp at found
  · rename_i last before trimmed
    split at found
    · simp at found
    · obtain rfl := Option.some.inj found
      have kept := trimBackwards_length path.reverse
      have cut := trimBackwards_length (before.dropWhile (· != slash))
      have dropped := (List.dropWhile_sublist (· != slash) (l := before)).length_le
      simp only [trimmed, List.length_cons, List.length_reverse] at kept ⊢
      omega

/-! ## Joining -/

/-- A path within a directory.  The name is relative. -/
def join (directory : Path) (name : String) : Path :=
  let name := Bytes.ofString name
  if directory.isEmpty || directory.endsInSlash then directory ++ name
  else directory ++ slash :: name

end Path

end SessionHost
