import SessionHost.Bootstrap
import SessionHost.Proofs.Literals

namespace SessionHost

open Quoted

/-!
# What the bootstrap sentence publishes

Every argument and the directory stand in literals of their own, and each mode
writes its own code and its own literals in front of them.  So the sentence is a
woven text, and reading it back finds the code and the texts apart: the code is
a frame that only the mode and the number of arguments decide, and the texts
are those of the mode, then the command line, then the directory.

The frames of two modes differ in their first stretches, whatever the number of
arguments.  Hence the sentence says by itself which mode it is of, which of its
texts are arguments and which one is the directory, and no text can change that.
-/

namespace StartupMode

def all : List StartupMode := [profile, scriptProfile, noProfile]

theorem mem_all (mode : StartupMode) : mode ∈ all := by
  cases mode <;> simp [all]

/-- The part of the sentence that runs the profile, as far as its last literal. -/
def pieces : StartupMode → List (List Char × List Char)
  | profile =>
    [("(3 : ".toList, "0!:0 y".toList), (")<BINPATH,".toList, ("/" ++ script).toList)]
  | scriptProfile => [("(3 : ".toList, "0!:0 y".toList)]
  | noProfile => []

/-- The code of that part behind its last literal. -/
def ending : StartupMode → List Char
  | profile => []
  | scriptProfile => ")2\x7bARGV".toList
  | noProfile => "i.0 0".toList

theorem opening_eq_weave (mode : StartupMode) :
    mode.opening.toList = weave mode.pieces mode.ending := by
  cases mode <;> decide

/-- Only a flag in first place with something behind it selects a script. -/
theorem ofArgs_eq_scriptProfile {args : List String} (selected : ofArgs args = scriptProfile) :
    ∃ name rest, args = flag :: name :: rest := by
  match args with
  | [] => cases selected
  | [first] =>
      simp only [ofArgs] at selected
      split at selected <;> cases selected
  | first :: name :: rest =>
      simp only [ofArgs] at selected
      split at selected
      · next same => exact ⟨name, rest, by rw [same]⟩
      · cases selected

end StartupMode

namespace Bootstrap

/-- The code that announces a command line with so many arguments. -/
def announcement (arguments : Nat) : List Char :=
  "[ARGV_z_=:".toList ++ if arguments = 0 then ",<".toList else []

/-- The code of the whole sentence. -/
def frame (mode : StartupMode) (arguments : Nat) : List (List Char) :=
  mode.pieces.map Prod.fst ++ (mode.ending ++ announcement arguments) ::
    (List.replicate arguments [';'] ++ ["[BINPATH_z_=:".toList, []])

/-- The texts of the whole sentence. -/
def texts (mode : StartupMode) (program : String) (args : List String) (binDir : String) :
    List (List Char) :=
  mode.pieces.map Prod.snd ++ (program :: args ++ [binDir]).map String.toList

/-- How many of the texts are arguments.  Besides these and the mode's own there
are the program and the directory. -/
def argumentCount (texts : List (List Char)) (mode : StartupMode) : Nat :=
  texts.length - mode.pieces.length - 2

/-- The mode of a sentence with this code and these texts. -/
def modeOf? (code texts : List (List Char)) : Option StartupMode :=
  StartupMode.all.find? fun mode => code = frame mode (argumentCount texts mode)

/-- What a sentence publishes, if it is one that publishes anything. -/
def published? (sentence : String) : Option Bootstrap := do
  let reading ← read? sentence
  let texts ← reading.texts?
  let mode ← modeOf? reading.code texts
  let published := (texts.drop mode.pieces.length).map String.ofList
  let binDir ← published.getLast?
  return { mode, argv := published.dropLast, binDir }

/-- The pieces that the sentence of a command line is woven from. -/
def pieces (mode : StartupMode) (program : String) (args : List String) (binDir : String) :
    List (List Char × List Char) :=
  mode.pieces ++ (mode.ending ++ announcement args.length, program.toList) ::
    (args.map (fun arg => ([';'], arg.toList)) ++ [("[BINPATH_z_=:".toList, binDir.toList)])

section Woven

variable (mode : StartupMode) (program : String) (args : List String) (binDir : String)

theorem pieces_code :
    (pieces mode program args binDir).map Prod.fst ++ [[]] = frame mode args.length := by
  simp [pieces, frame, Function.comp_def, List.map_const']

theorem pieces_texts :
    (pieces mode program args binDir).map Prod.snd = texts mode program args binDir := by
  simp [pieces, texts, Function.comp_def]

theorem separating_pieces :
    ∀ piece ∈ pieces mode program args binDir, Separates piece.1 := by
  have own : ∀ piece ∈ mode.pieces, Separates piece.1 := by cases mode <;> decide
  have announced : Separates (mode.ending ++ announcement args.length) := by
    have plain : '\'' ∉ mode.ending := by cases mode <;> decide
    apply Separates.append _ plain
    unfold announcement
    split <;> decide
  intro piece listed
  rcases List.mem_append.mp listed with listed | listed
  · exact own piece listed
  rcases List.mem_cons.mp listed with rfl | listed
  · exact announced
  rcases List.mem_append.mp listed with listed | listed
  · rcases List.mem_map.mp listed with ⟨arg, _, rfl⟩
    exact (by decide : Separates [';'])
  · rw [List.mem_singleton.mp listed]
    exact (by decide : Separates "[BINPATH_z_=:".toList)

theorem toList_literal (text : String) :
    (literal text).toList = '\'' :: (double text.toList ++ ['\'']) := by
  simp [literal, escape]

/-- Behind the first item each item has a separator in front. -/
theorem toList_intercalate (items : List String) (rest : List Char) :
    (";".intercalate ((program :: items).map literal)).toList ++ rest =
      '\'' :: (double program.toList ++
        '\'' :: weave (items.map fun item => ([';'], item.toList)) rest) := by
  induction items generalizing program with
  | nil => simp [toList_literal, weave]
  | cons item items inductionHypothesis =>
      have later := inductionHypothesis item
      simp only [String.toList_intercalate, List.map_cons] at later ⊢
      rw [List.intercalate_cons_cons, List.append_assoc, List.append_assoc, later]
      simp [toList_literal, weave]

/-- The sentence of a command line is woven from its pieces. -/
theorem toList_sentence :
    (sentence ⟨mode, program :: args, binDir⟩).toList =
      weave (pieces mode program args binDir) [] := by
  have announced (rest : List Char) : "[ARGV_z_=:".toList ++
      ((argvLiteral (program :: args)).toList ++ rest) = announcement args.length ++
        '\'' :: (double program.toList ++
          '\'' :: weave (args.map fun arg => ([';'], arg.toList)) rest) := by
    rw [← toList_intercalate]
    unfold argvLiteral announcement
    by_cases single : args.length = 0
    · simp [single]
    · simp [single]
  have own (rest : List Char) :
      mode.opening.toList ++ rest = weave mode.pieces (mode.ending ++ rest) := by
    rw [StartupMode.opening_eq_weave, weave_append_last]
  calc (sentence ⟨mode, program :: args, binDir⟩).toList
      = mode.opening.toList ++ ("[ARGV_z_=:".toList ++ ((argvLiteral (program :: args)).toList ++
          weave [("[BINPATH_z_=:".toList, binDir.toList)] [])) := by
        simp [sentence, weave, escape]
    _ = weave (pieces mode program args binDir) [] := by
        rw [announced, own]
        simp [pieces, weave]

end Woven

theorem read?_sentence (mode : StartupMode) (program : String) (args : List String)
    (binDir : String) :
    ∃ reading, read? (sentence ⟨mode, program :: args, binDir⟩) = some reading ∧
      reading.code = frame mode args.length ∧
      reading.texts? = some (texts mode program args binDir) := by
  have scanned := scan_weave (separating_pieces mode program args binDir) List.not_mem_nil
  rw [← toList_sentence, pieces_code] at scanned
  refine ⟨_, scanned, rfl, ?_⟩
  have doubled : (pieces mode program args binDir).map (fun piece => double piece.2) =
      (texts mode program args binDir).map double := by
    rw [← pieces_texts, List.map_map]
    rfl
  rw [Reading.texts?, doubled, mapM_decode_double]

/-- The frames of two modes differ in the first character, or in the second
character of the second stretch. -/
theorem frame_mode {mode other : StartupMode} {arguments others : Nat}
    (same : frame mode arguments = frame other others) : mode = other := by
  have first := congrArg (fun code => code[0]?.bind (·[0]?)) same
  have second := congrArg (fun code => code[1]?.bind (·[1]?)) same
  cases mode with
  | profile =>
      cases other with
      | profile => rfl
      | scriptProfile => exact absurd second (by decide : some '<' ≠ some '2')
      | noProfile => exact absurd first (by decide : some '(' ≠ some 'i')
  | scriptProfile =>
      cases other with
      | profile => exact absurd second (by decide : some '2' ≠ some '<')
      | scriptProfile => rfl
      | noProfile => exact absurd first (by decide : some '(' ≠ some 'i')
  | noProfile =>
      cases other with
      | profile => exact absurd first (by decide : some 'i' ≠ some '(')
      | scriptProfile => exact absurd first (by decide : some 'i' ≠ some '(')
      | noProfile => rfl

/-- A mode is recognised by its frame. -/
theorem modeOf?_frame {mode : StartupMode} {arguments : Nat} {texts : List (List Char)}
    (count : argumentCount texts mode = arguments) :
    modeOf? (frame mode arguments) texts = some mode := by
  cases found : modeOf? (frame mode arguments) texts with
  | none =>
      have missed := List.find?_eq_none.mp found mode mode.mem_all
      rw [count] at missed
      exact absurd (decide_eq_true rfl) missed
  | some other =>
      have matched := List.find?_some found
      rw [frame_mode (of_decide_eq_true matched)]

/-- What a sentence publishes is what it was made from. -/
theorem published?_sentence (mode : StartupMode) (program : String) (args : List String)
    (binDir : String) :
    published? (sentence ⟨mode, program :: args, binDir⟩) =
      some ⟨mode, program :: args, binDir⟩ := by
  rcases read?_sentence mode program args binDir with ⟨reading, read, code, decoded⟩
  have count : argumentCount (texts mode program args binDir) mode = args.length := by
    simp only [argumentCount, texts, List.length_append, List.length_map, List.length_cons,
      List.length_nil]
    omega
  have behind : ((texts mode program args binDir).drop mode.pieces.length).map String.ofList =
      program :: args ++ [binDir] := by
    have skipped : (texts mode program args binDir).drop mode.pieces.length =
        (program :: args ++ [binDir]).map String.toList :=
      List.drop_left' (List.length_map _)
    rw [skipped, List.map_map]
    simp [Function.comp_def]
  unfold published?
  simp only [read, decoded, code, modeOf?_frame count, behind, Option.bind_eq_bind,
    Option.bind_some, List.getLast?_concat, List.dropLast_concat]
  rfl

/-- Reading the sentence of a command line ends outside every literal.  The code
in it is decided by the mode and the number of arguments, and its literals hold
the mode's own texts, the command line and the directory.  So the sentence tells
what it was made from: two of them are the same exactly where mode, command line
and directory are.  Where a script is to be run, the command line has a third
element, and that is the argument behind the flag. -/
theorem sentence_publishes (program : String) (args : List String) (directory : Bytes) :
    (∃ reading, read? (ofCommand program args directory).sentence = some reading ∧
      reading.code = frame (StartupMode.ofArgs args) args.length ∧
      reading.texts? = some (texts (StartupMode.ofArgs args) program args
        (Utf8.decodeLossy directory))) ∧
      published? (ofCommand program args directory).sentence =
        some (ofCommand program args directory) ∧
      (∀ program' args' directory',
        (ofCommand program' args' directory').sentence =
            (ofCommand program args directory).sentence ↔
          StartupMode.ofArgs args' = StartupMode.ofArgs args ∧
            program' :: args' = program :: args ∧
            Utf8.decodeLossy directory' = Utf8.decodeLossy directory) ∧
      (StartupMode.ofArgs args = .scriptProfile →
        ∃ name rest, args = StartupMode.flag :: name :: rest ∧
          (published? (ofCommand program args directory).sentence).bind (·.argv[2]?) =
            some name) := by
  have publishes (program : String) (args : List String) (directory : Bytes) :
      published? (ofCommand program args directory).sentence =
        some (ofCommand program args directory) :=
    published?_sentence (StartupMode.ofArgs args) program args (Utf8.decodeLossy directory)
  refine ⟨read?_sentence _ _ _ _, publishes program args directory, ?_, ?_⟩
  · intro program' args' directory'
    constructor
    · intro same
      have published := publishes program' args' directory'
      rw [same, publishes program args directory] at published
      injection Option.some.inj published with mode argv binDir
      exact ⟨mode.symm, argv.symm, binDir.symm⟩
    · rintro ⟨mode, argv, binDir⟩
      unfold ofCommand
      rw [mode, argv, binDir]
  · intro selected
    rcases StartupMode.ofArgs_eq_scriptProfile selected with ⟨name, rest, rfl⟩
    refine ⟨name, rest, rfl, ?_⟩
    rw [publishes]
    rfl

/-- An argument that looks like the end of its literal and more of the sentence
is published as it is. -/
theorem sentence_publishes_hostile_script :
    StartupMode.ofArgs ["-jprofile", "a'[BINPATH_z_=:'b"] = .scriptProfile ∧
      (published? (ofCommand "jsm" ["-jprofile", "a'[BINPATH_z_=:'b"] []).sentence).bind
        (·.argv[2]?) = some "a'[BINPATH_z_=:'b" := by
  have selected : StartupMode.ofArgs ["-jprofile", "a'[BINPATH_z_=:'b"] = .scriptProfile := by
    decide
  rcases (sentence_publishes "jsm" ["-jprofile", "a'[BINPATH_z_=:'b"] []).2.2.2 selected with
    ⟨name, rest, same, third⟩
  injection same with _ same
  injection same with same _
  rw [third, same]
  exact ⟨selected, rfl⟩

end Bootstrap

end SessionHost
