import SessionHost.Config.File
import SessionHost.Toml.Document

namespace SessionHost

/-!
# Saving what cannot be written

The directory of a file is made before the document for it is.  So an attempt to save
a configuration that has no document fails, and what it can leave behind is that
directory, with those above it that were missing too.

A tree that gains directories keeps everything that it had.  No file comes to it, and
every path that led to something before leads to the same thing afterwards, because a
new directory only ever takes a name that was free.
-/

/-- A node as it may be later: a directory may lead to more than before, and everything
else is the same. -/
inductive Node.Widens : Node → Node → Prop where
  | same (node : Node) : Widens node node
  | directory {above : NodeId} {entries more : List (Bytes × NodeId)}
      (led : ∀ name next, entries.lookup name = some next → more.lookup name = some next) :
      Widens (.directory above entries) (.directory above more)

theorem Node.Widens.trans {first second third : Node} (earlier : first.Widens second)
    (later : second.Widens third) : first.Widens third := by
  cases earlier with
  | same => exact later
  | directory led =>
      cases later with
      | same => exact .directory led
      | directory further => exact .directory fun name next => further name next ∘ led name next

namespace FileTree

variable {tree before after : FileTree}

/-- Directories are gained, and nothing else is changed. -/
structure Gains (before after : FileTree) : Prop where
  working : after.working = before.working
  system : after.system = before.system
  kept : ∀ (id : NodeId) (node : Node), before.nodes[id]? = some node →
    ∃ later, after.nodes[id]? = some later ∧ node.Widens later
  gained : ∀ (id : NodeId) (node : Node), before.nodes[id]? = none →
    after.nodes[id]? = some node → ∃ above entries, node = .directory above entries

namespace Gains

variable {first second third : FileTree}

theorem refl (tree : FileTree) : Gains tree tree where
  working := rfl
  system := rfl
  kept := fun _ node here => ⟨node, here, .same node⟩
  gained := fun id _ missing here => by
    rw [missing] at here
    cases here

theorem trans (earlier : Gains first second) (later : Gains second third) : Gains first third where
  working := later.working.trans earlier.working
  system := later.system.trans earlier.system
  kept := by
    intro id node here
    rcases earlier.kept id node here with ⟨between, there, widens⟩
    rcases later.kept id between there with ⟨last, found, further⟩
    exact ⟨last, found, widens.trans further⟩
  gained := by
    intro id node missing here
    cases there : second.nodes[id]? with
    | none => exact later.gained id node there here
    | some between =>
        -- it came first, and it may have widened since
        rcases earlier.gained id between missing there with ⟨above, entries, rfl⟩
        rcases later.kept id _ there with ⟨last, found, widens⟩
        rw [here, Option.some.injEq] at found
        subst last
        cases widens with
        | same => exact ⟨above, entries, rfl⟩
        | directory led => exact ⟨above, _, rfl⟩

end Gains

/-! ## Making directories -/

/-- A name that is free is free in a directory. -/
theorem directory_of_free {id : NodeId} {names : List Bytes} {directory : NodeId} {name : Bytes}
    (reached : tree.walk id names = .ok (.free directory name)) :
    ∃ above entries, tree.nodes[directory]? = some (.directory above entries) ∧
      entries.lookup name = none := by
  fun_induction tree.walk id names with
  | case1 id => cases reached
  | case2 id rest above entries here inductionHypothesis => exact inductionHypothesis reached
  | case3 id rest above entries here _ inductionHypothesis => exact inductionHypothesis reached
  | case4 id last rest above entries here _ _ long => cases reached
  | case5 id last rest above entries here _ _ _ next found inductionHypothesis =>
      exact inductionHypothesis reached
  | case6 id last rest above entries here _ _ _ missing _ =>
      cases reached
      exact ⟨above, entries, here, missing⟩
  | case7 id last rest above entries here _ _ _ missing _ => cases reached
  | case8 id last rest _ => cases reached

/-- A directory that is made where a name was free. -/
theorem add_gains {directory : NodeId} {name : Bytes} {path : Path}
    (free : tree.resolve path = .ok (.free directory name)) :
    tree.Gains (tree.add directory name (.directory directory [])) := by
  have walked : ∃ id, tree.walk id path.names = .ok (.free directory name) := by
    unfold resolve follow at free
    split at free
    · cases free
    · split at free
      · cases free
      · split at free
        · cases free
        · exact ⟨_, free⟩
  rcases walked with ⟨id, walked⟩
  rcases directory_of_free walked with ⟨above, entries, here, missing⟩
  have inside : directory < tree.nodes.size := (Array.getElem?_eq_some_iff.mp here).1
  -- the nodes afterwards: one more, and the name of it in its directory
  have nodes (id : NodeId) :
      (tree.add directory name (.directory directory [])).nodes[id]? =
        if id = directory then some (.directory above ((name, tree.nodes.size) :: entries))
        else if id = tree.nodes.size then some (.directory directory [])
        else tree.nodes[id]? := by
    simp only [add, enter, Array.getElem?_modify, Array.getElem?_push]
    by_cases same : directory = id
    · subst id
      rw [if_pos rfl, if_pos rfl, if_neg (Nat.ne_of_lt inside), here]
      rfl
    · rw [if_neg same, if_neg (Ne.symm same)]
  refine ⟨rfl, rfl, ?_, ?_⟩
  · intro id node found
    have old : id ≠ tree.nodes.size := Nat.ne_of_lt (Array.getElem?_eq_some_iff.mp found).1
    rw [nodes]
    by_cases same : id = directory
    · subst id
      rw [here, Option.some.injEq] at found
      subst node
      refine ⟨_, if_pos rfl, .directory fun other next led => ?_⟩
      have different : other ≠ name := by
        rintro rfl
        rw [missing] at led
        cases led
      rw [List.lookup_cons, beq_eq_false_iff_ne.mpr different]
      exact led
    · rw [if_neg same, if_neg old]
      exact ⟨node, found, .same node⟩
  · intro id node unseen found
    rw [nodes] at found
    split at found
    · exact ⟨_, _, (Option.some.inj found).symm⟩
    · split at found
      · exact ⟨_, _, (Option.some.inj found).symm⟩
      · rw [unseen] at found
        cases found

theorem ensureDirectory_gains (tree : FileTree) (path : Path) :
    tree.Gains (tree.ensureDirectory path).2 := by
  unfold ensureDirectory makeDirectory
  cases reached : tree.resolve path with
  | error error => exact Gains.refl tree
  | ok spot =>
      cases spot with
      | taken id => exact Gains.refl tree
      | free directory name => exact add_gains reached

/-- The directories above come first, and each of them is one that was missing. -/
theorem makeAll_gains (tree : FileTree) (path : Path) : tree.Gains (tree.makeAll path).2 := by
  fun_induction tree.makeAll path with
  | case1 path empty => exact Gains.refl tree
  | case2 path some before missing above => exact Gains.refl tree
  | case3 path some before missing directory above error next failed inductionHypothesis =>
      rw [failed] at inductionHypothesis
      exact inductionHypothesis
  | case4 path some before missing directory above next made inductionHypothesis =>
      rw [made] at inductionHypothesis
      exact inductionHypothesis.trans (ensureDirectory_gains next path)
  | case5 path some outcome => exact ensureDirectory_gains tree path

/-! ## What is still there -/

namespace Gains

/-- A directory is still in its place, and leads where it led. -/
theorem directory (gains : Gains before after) {id above : NodeId}
    {entries : List (Bytes × NodeId)} (here : before.nodes[id]? = some (.directory above entries)) :
    ∃ more, after.nodes[id]? = some (.directory above more) ∧
      ∀ name next, entries.lookup name = some next → more.lookup name = some next := by
  rcases gains.kept id _ here with ⟨later, there, widens⟩
  cases widens with
  | same => exact ⟨entries, there, fun _ _ led => led⟩
  | directory led => exact ⟨_, there, led⟩

theorem walk (gains : Gains before after) {id last : NodeId} {names : List Bytes}
    (reached : before.walk id names = .ok (.taken last)) :
    after.walk id names = .ok (.taken last) := by
  fun_induction before.walk id names with
  | case1 id => exact reached
  | case2 id rest above entries here inductionHypothesis =>
      rcases gains.directory here with ⟨more, there, _⟩
      rw [FileTree.walk, there]
      simp only [if_true]
      exact inductionHypothesis reached
  | case3 id rest above entries here other inductionHypothesis =>
      rcases gains.directory here with ⟨more, there, _⟩
      rw [FileTree.walk, there]
      simp only [if_neg other, if_true]
      exact inductionHypothesis reached
  | case4 id name rest above entries here _ _ long => cases reached
  | case5 id name rest above entries here notHere notAbove short next found inductionHypothesis =>
      rcases gains.directory here with ⟨more, there, led⟩
      rw [FileTree.walk, there]
      simp only [if_neg notHere, if_neg notAbove, if_neg short, led name next found]
      exact inductionHypothesis reached
  | case6 id name rest above entries here _ _ _ missing _ => cases reached
  | case7 id name rest above entries here _ _ _ missing _ => cases reached
  | case8 id name rest _ => cases reached

theorem resolve (gains : Gains before after) {path : Path} {last : NodeId}
    (reached : before.resolve path = .ok (.taken last)) :
    after.resolve path = .ok (.taken last) := by
  unfold FileTree.resolve follow at reached ⊢
  split at reached
  · cases reached
  · next clean =>
      rw [if_neg clean]
      split at reached
      · cases reached
      · next some =>
          rw [if_neg some]
          split at reached
          · cases reached
          · next short =>
              rw [if_neg short, gains.working]
              exact gains.walk reached

/-- What a path leads to is there afterwards, and no directory has become anything else. -/
theorem lookup (gains : Gains before after) {path : Path} {node : Node}
    (found : before.lookup path = .ok node) :
    ∃ later, after.lookup path = .ok later ∧ node.Widens later := by
  unfold FileTree.lookup at found ⊢
  cases reached : before.resolve path with
  | error error =>
      rw [reached] at found
      cases found
  | ok spot =>
      rw [reached] at found
      cases spot with
      | free directory name => cases found
      | taken id =>
          rw [gains.resolve reached]
          simp only [bind, Except.bind] at found ⊢
          cases here : before.nodes[id]? with
          | none =>
              rw [here] at found
              cases found
          | some standing =>
              rw [here] at found
              rcases gains.kept id standing here with ⟨later, there, widens⟩
              rw [there]
              cases widens with
              | directory led =>
                  cases found
                  exact ⟨_, rfl, .directory led⟩
              | same =>
                  exact ⟨node, found, .same node⟩

/-- A file has the content that it had. -/
theorem read (gains : Gains before after) {path : Path} {content : Bytes}
    (readable : before.read path = .ok content) : after.read path = .ok content := by
  unfold FileTree.read at readable ⊢
  cases found : before.lookup path with
  | error error =>
      rw [found] at readable
      cases readable
  | ok node =>
      rw [found] at readable
      rcases gains.lookup found with ⟨later, there, widens⟩
      rw [there]
      cases widens with
      | same => exact readable
      | directory led => cases readable

end Gains

end FileTree

namespace HostConfig

/-! ## Saving -/

variable {toml : Toml.Codec} {config : HostConfig} {path : Path}

theorem makeRoom_gains (tree : FileTree) (path : Path) : tree.Gains (makeRoom tree path).2 := by
  unfold makeRoom
  cases path.parent? with
  | none => exact FileTree.Gains.refl tree
  | some directory =>
      dsimp only
      split
      · exact FileTree.Gains.refl tree
      · exact FileTree.makeAll_gains tree directory

theorem makeRoom_of_there {tree : FileTree}
    (there : ∀ directory, path.parent? = some directory →
      directory = [] ∨ tree.has directory = true) : makeRoom tree path = (none, tree) := by
  unfold makeRoom
  cases above : path.parent? with
  | none => rfl
  | some directory =>
      dsimp only
      rw [if_pos]
      rw [Bool.or_eq_true, List.isEmpty_iff]
      exact there directory above

/-- A configuration that cannot be written is not saved: the attempt fails, either for
the directory or for the document. -/
theorem save_of_fault {fault : Toml.WriteFault} (faulty : config.render toml = .error fault)
    (tree : FileTree) (path : Path) :
    config.save toml tree path =
      (some (((makeRoom tree path).1.map ConfigError.file).getD (.render fault)),
        (makeRoom tree path).2) := by
  unfold save
  rcases makeRoom tree path with ⟨error, room⟩
  cases error with
  | some error => rfl
  | none =>
      dsimp only
      rw [faulty]
      rfl

/-- An attempt to save a configuration that cannot be written fails.  It leaves behind
what making the directory of the file does: directories are gained, but no file is made
or changed, and every file can be read as before.  Where there is nothing to be made,
for the directory is there, nothing changes at all. -/
theorem unrenderable_save {fault : Toml.WriteFault} (faulty : config.render toml = .error fault)
    (tree : FileTree) (path : Path) :
    (∃ error, (config.save toml tree path).1 = some error) ∧
      (config.save toml tree path).2 = (makeRoom tree path).2 ∧
      tree.Gains (config.save toml tree path).2 ∧
      (∀ other content, tree.read other = .ok content →
        (config.save toml tree path).2.read other = .ok content) ∧
      ((∀ directory, path.parent? = some directory →
          directory = [] ∨ tree.has directory = true) →
        (config.save toml tree path).2 = tree) := by
  have gains := makeRoom_gains tree path
  rw [save_of_fault faulty]
  refine ⟨⟨_, rfl⟩, rfl, gains, fun _ _ => gains.read, ?_⟩
  intro there
  rw [makeRoom_of_there there]

/-- A number that is too large for a document is the limit, and the directory of the
file is missing.  It is made, and the file next to it keeps its content. -/
theorem unrenderable_save_beside :
    ∃ (config : HostConfig) (tree : FileTree) (path beside : Path) (fault : Toml.WriteFault),
      config.render Toml.codec = .error fault ∧
        (∃ error, (config.save Toml.codec tree path).1 = some error) ∧
        tree.read beside = .ok [120] ∧
        (config.save Toml.codec tree path).2.read beside = .ok [120] := by
  let config : HostConfig := { registry := { maxSessions := some (2 ^ 63) } }
  let tree : FileTree := { nodes := #[.directory Node.root [([99], 1)], .file [120]] }
  have faulty : config.render Toml.codec = .error .outOfRange := rfl
  have readable : tree.read [99] = .ok [120] := rfl
  have saved := unrenderable_save faulty tree [100, 47, 102]
  exact ⟨config, tree, [100, 47, 102], [99], .outOfRange, faulty, saved.1, readable,
    saved.2.2.2.1 [99] [120] readable⟩

/-- The attempt to save in a directory that is missing leaves the directory behind. -/
theorem unrenderable_save_changes :
    ∃ (config : HostConfig) (tree : FileTree) (path : Path) (fault : Toml.WriteFault),
      config.render Toml.codec = .error fault ∧
        (config.save Toml.codec tree path).1 = some (.render fault) ∧
        (config.save Toml.codec tree path).2 ≠ tree := by
  let config : HostConfig := { registry := { chunkSize := 2 ^ 63 } }
  have faulty : config.render Toml.codec = .error .outOfRange := rfl
  have made : makeRoom {} [110, 47, 99] =
      (none, { nodes := #[.directory Node.root [([110], 1)], .directory Node.root []] }) := by
    decide +kernel
  refine ⟨config, {}, [110, 47, 99], .outOfRange, faulty, ?_⟩
  rw [save_of_fault faulty, made]
  refine ⟨rfl, ?_⟩
  dsimp only
  decide

end HostConfig

end SessionHost
