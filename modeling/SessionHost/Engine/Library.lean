import SessionHost.Log
import SessionHost.Storage.Tree

namespace SessionHost

/-!
# Loading an engine library

A library is found by its path and then searched for every entry point, in a
fixed order, before it is used.  A path without a slash is a bare name: it is
looked for among the system's libraries, of which none exports an entry point,
and in the directories that the environment lists.  The empty path stands for
the running program itself, and that exports no entry point either.

Two things in a path are not names.  A NUL at its end says no more than that
the path ends there, and in a path with a slash some words behind a dollar sign
stand for other paths.  Messages show a path as it was written.
-/

/-- Why an engine library cannot be used. -/
inductive LoadError where
  /-- There is no library at this path. -/
  | notLoadable (path : Path)
  /-- The library lacks this entry point. -/
  | missingSymbol (symbol : Symbol)
deriving DecidableEq, Repr

namespace LoadError

/-- The dynamic loader's part of the message. -/
def reason : LoadError → String
  | notLoadable _ => "no engine library could be opened there"
  | missingSymbol _ => "no such entry point"

def message (error : LoadError) : String :=
  (match error with
    | notLoadable path => "failed to load engine library " ++ Utf8.decodeLossy path
    | missingSymbol symbol => "engine library is missing symbol `" ++ symbol.name ++ "`") ++
    ": " ++ error.reason

end LoadError

/-! ## Library paths -/

namespace Path

/-- The path without the NUL that may terminate it. -/
def unterminated (path : Path) : Path :=
  if path.getLast? = some 0 then path.dropLast else path

/-- The words that stand for a path where a dollar sign is in front of them: the
directory of the running program, the place of the system's libraries below
the root, and the kind of the processor. -/
def substitutes (origin : Path) : List (Bytes × Path) :=
  [("ORIGIN", origin), ("LIB", Bytes.ofString "lib/x86_64-linux-gnu"),
    ("PLATFORM", Bytes.ofString "haswell")].map fun (word, path) => (Bytes.ofString word, path)

/-- Whether a byte belongs to a word: a letter, a digit or an underscore. -/
def continuesWord (byte : UInt8) : Bool :=
  (Char.ofNat byte.toNat).isAlphanum || byte = 0x5F

/-- The length of a reference to a word at the front of a path.  The word is in
braces, or it ends where it stands. -/
def referenceLength? (path : Path) (word : Bytes) : Option Nat :=
  let braced := Bytes.ofString "$\x7b" ++ word ++ Bytes.ofString "\x7d"
  let plain := Bytes.ofString "$" ++ word
  if braced.isPrefixOf path then some braced.length
  else if plain.isPrefixOf path && !(path.drop plain.length).head?.any continuesWord then
    some plain.length
  else none

/-- What the reference at the front of a path stands for, and its length. -/
def reference? (words : List (Bytes × Path)) (path : Path) : Option (Path × Nat) :=
  words.findSome? fun (word, meant) => (path.referenceLength? word).map (meant, ·)

/-- Expand what is left of a path when some bytes, the rest of a reference, are
dropped. -/
def expandFrom (words : List (Bytes × Path)) : (dropped : Nat) → Path → Path
  | _, [] => []
  | dropped + 1, _ :: rest => expandFrom words dropped rest
  | 0, byte :: rest =>
    match reference? words (byte :: rest) with
    | none => byte :: expandFrom words 0 rest
    | some (meant, length) => meant ++ expandFrom words (length - 1) rest

/-- The path with every reference expanded, for a program in the directory
`origin`. -/
def expand (path origin : Path) : Path :=
  expandFrom (substitutes origin) 0 path

end Path

/-! ## Finding libraries -/

/-- What decides where a program finds its libraries. -/
structure Loader where
  /-- The directory of the running program. -/
  origin : Path
  /-- Where bare names are looked for. -/
  directories : List Path := []
deriving DecidableEq, Repr

namespace Loader

/-- The environment variable that lists directories for bare names. -/
def listVariable : String := "LD_LIBRARY_PATH"

/-- The directories of a list.  They stand between colons or semicolons, and
nothing between two of these is the working directory; but an empty list names
no directory. -/
def directoriesOf (list : Bytes) : List Path :=
  if list.isEmpty then []
  else ((list.splitOn 0x3A).flatMap (·.splitOn 0x3B)).map fun path =>
    if path.isEmpty then Path.here else path

/-- The loader of a program in the directory `origin`. -/
def ofList (origin : Path) (list : Option Bytes) : Loader where
  origin
  directories := (directoriesOf (list.getD [])).map (·.expand origin)

end Loader

/-- The entry points that the library at a place in the tree exports. -/
def FileTree.exportsOf? (tree : FileTree) (path : Path) : Option (List Symbol) :=
  match tree.lookup path with
  | .ok (.library exports) => some exports
  | _ => none

/-- The entry points that the library of a path exports.  Of the directories
for a bare name, the first one that has it decides. -/
def FileTree.exportsAt? (tree : FileTree) (loader : Loader) (path : Path) :
    Option (List Symbol) :=
  let path := path.unterminated
  if path.isEmpty || tree.system.contains path then some []
  else if path.contains Path.slash then tree.exportsOf? (path.expand loader.origin)
  else
    let places := loader.directories.map fun directory => directory ++ Path.slash :: path
    (places.find? tree.has).bind tree.exportsOf?

/-! ## Loading -/

/-- Load a library: what is wrong with it, if anything, and what there is to say
about the search. -/
def loadLibrary (tree : FileTree) (loader : Loader) (path : Path) :
    Option LoadError × List Log.Record :=
  let opening := Log.info ("loading engine library " ++ Utf8.decodeLossy path) []
  match tree.exportsAt? loader path with
  | none => (some (.notLoadable path), [opening])
  | some exports =>
    let found := Symbol.all.takeWhile exports.contains
    ((Symbol.all[found.length]?).map .missingSymbol,
      opening :: found.map fun symbol => Log.debug ("resolved engine symbol " ++ symbol.name) [])

/-- The debugging text of a loaded library, in which a NUL is escaped. -/
def describeLibrary (path : Path) : String :=
  let shown := (Utf8.decodeLossy path).toList.flatMap fun char =>
    if char = '\x00' then ['\\', '0'] else [char]
  "DynamicEngine \x7b path: \"" ++ String.ofList shown ++ "\", .. \x7d"

end SessionHost
