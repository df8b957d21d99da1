import SessionHost.Engine.Recording
import SessionHost.Program.Run
import SessionHost.Proofs.FirstSubmission
import SessionHost.Proofs.OptionReader
import SessionHost.Proofs.Publication
import SessionHost.Toml.Document

namespace SessionHost

/-!
# The engine's arguments on their way

The engine's arguments are taken off the command line, put behind the name of the
program, quoted, and submitted as a part of the first sentence of the session.  The
main result follows them all this way, for every list of them that can stand behind
the host's options, and for every way in which the run may end.  What is read from
the sentence is the list that was given, whatever the arguments look like, and the
host's options have the values that were given in front of them.
-/

/-- The sentences that were submitted in a run, and to which instance, in order. -/
def Outcome.submissions (outcome : Outcome) : List (Handle × Bytes) :=
  outcome.journal.filterMap Entry.submission?

theorem Host.submissions_eq {σ : Type} (host : Host σ) :
    host.submissions = host.journal.reverse.filterMap Entry.submission? :=
  (List.filterMap_reverse ..).symm

namespace Invocation

variable {σ : Type} {line : CommandLine}

/-- What the first sentence of the session publishes. -/
def bootstrap (invocation : Invocation σ) (line : CommandLine) : Bootstrap :=
  Bootstrap.ofCommand (Utf8.decodeLossy invocation.program) line.args invocation.binDir

/-- What the command line asks for, if it asks for a run. -/
def line? (invocation : Invocation σ) : Option CommandLine :=
  match invocation.parser.parse CommandLine.declaration invocation.program invocation.args with
  | .ok (.matched found) => some (.ofMatches found)
  | _ => none

variable [Engine σ]

/-- However serving ends, the journal of the run is that of its host. -/
theorem serve_submissions (invocation : Invocation σ) (config : HostConfig) (line : CommandLine)
    (log : List Log.Record) (host : Host σ) :
    ∃ final : Host σ, (invocation.serve config line log host).submissions = final.submissions ∧
      Host.Begins (Bytes.ofString (invocation.bootstrap line).sentence) host final := by
  have begins := Host.serve_begins invocation.steps 0
    ⟨Bytes.ofString config.console.prompt, config.interrupts⟩ (invocation.bootstrap line) host
  unfold Hosting.Leaves Hosting.Leads bootstrap at begins
  unfold Invocation.serve
  dsimp only
  split
  all_goals
    next outcome =>
      rw [outcome] at begins
      exact ⟨_, (Host.submissions_eq _).symm, begins⟩

omit [Engine σ] in
/-- A host that was just made has submitted nothing. -/
theorem submissions_of_init {engine : σ} {memory : Memory} {config : RegistryConfig}
    {bridges : List Bridge} {host : Host σ}
    (made : Host.init engine memory config bridges = .ok host) : host.submissions = [] := by
  unfold Host.init at made
  split at made
  · cases made
  · cases made
    rfl

/-- A run that ends before its session is served submits nothing. -/
theorem carryOut_cases (invocation : Invocation σ) (line : CommandLine) :
    (invocation.carryOut line).submissions = [] ∨
      ∃ config log host, host.submissions = [] ∧
        invocation.carryOut line = invocation.serve config line log host := by
  unfold carryOut
  cases invocation.loadConfig line with
  | error text => exact .inl rfl
  | ok loaded =>
      dsimp only
      split
      · cases (loaded.override line).render invocation.toml with
        | ok document => exact .inl rfl
        | error fault => exact .inl rfl
      · unfold start
        dsimp only
        split
        · exact .inl rfl
        · split
          · exact .inl rfl
          · next host made =>
              have silent : host.submissions = [] := submissions_of_init made
              refine .inr ⟨_, _, _, ?_, rfl⟩
              exact silent

/-- A run that submits anything begins with the bootstrap sentence of its command line. -/
theorem first_submission {invocation : Invocation σ} {found : Matches}
    (parsed : invocation.parser.parse CommandLine.declaration invocation.program invocation.args =
      .ok (.matched found)) :
    ∀ submission ∈ invocation.run.submissions.head?,
      submission.2 = Bytes.ofString (invocation.bootstrap (.ofMatches found)).sentence := by
  intro submission first
  unfold run at first
  rw [parsed] at first
  dsimp only at first
  rcases invocation.carryOut_cases (.ofMatches found) with
    nothing | ⟨config, log, host, silent, served⟩
  · rw [nothing] at first
    cases first
  · rcases invocation.serve_submissions config (.ofMatches found) log host with
      ⟨final, same, begins⟩
    rw [served, same] at first
    rcases begins with unsubmitted | ⟨handle, more, grown⟩
    · rw [unsubmitted, silent] at first
      cases first
    · rw [← grown, silent] at first
      cases first
      rfl

/-- Host options in front, each at most once and with a value that it can take, have
exactly these values.  Whatever stands behind them, from an argument on that does not
begin with two hyphens, is the engine's, as it was given.  The bootstrap sentence of
the run publishes the name of the program and behind it just these arguments, and it
is the first sentence that the run submits, however the run ends. -/
theorem args_published (invocation : Invocation σ)
    (honours : invocation.parser.Honours CommandLine.declaration)
    {settings : List CommandLine.Setting} {args : List String}
    (given : invocation.args =
      settings.flatMap CommandLine.Setting.arguments ++ args.map Bytes.ofString)
    (once : (settings.map (·.option.name)).Nodup) (valid : ∀ setting ∈ settings, setting.Valid)
    (apart : ∀ first ∈ args.head?, ¬ ['-', '-'] <+: first.toList) :
    ∃ line, invocation.line? = some line ∧ line.Holds settings args ∧
      Bootstrap.published? (invocation.bootstrap line).sentence =
        some
          { mode := StartupMode.ofArgs args
            argv := Utf8.decodeLossy invocation.program :: args
            binDir := Utf8.decodeLossy invocation.binDir } ∧
      ∀ submission ∈ invocation.run.submissions.head?,
        submission.2 = Bytes.ofString (invocation.bootstrap line).sentence := by
  have parsed := CommandLine.parse_settings honours invocation.program once valid
    fun first isFirst => CommandLine.apart_ofString (apart first isFirst)
  rw [← given] at parsed
  refine ⟨_, ?_, CommandLine.ofMatches_holds once valid, Bootstrap.published?_sentence _ _ _ _,
    first_submission parsed⟩
  unfold line?
  rw [parsed]

/-- An empty argument is the engine's first one, and what looks like options of the
host behind it is published with it, a separator and a quote included. -/
theorem args_published_of_hostile_tail :
    ∃ (invocation : Invocation Recording.Recorder) (line : CommandLine)
      (submission : Handle × Bytes) (sentence : String),
      invocation.program = Bytes.ofString "jsm" ∧
        invocation.args = ["--log-level=debug", "--engine", "/l", "", "--config", "--", "--help",
          "it's"].map Bytes.ofString ∧
        invocation.line? = some line ∧
        line.engine = some (Bytes.ofString "/l") ∧ line.level = some .debug ∧
        line.config = none ∧ line.args = ["", "--config", "--", "--help", "it's"] ∧
        invocation.run.submissions.head? = some submission ∧
        submission.2 = Bytes.ofString sentence ∧
        (Bootstrap.published? sentence).map (·.argv) =
          some ["jsm", "", "--config", "--", "--help", "it's"] := by
  let settings : List CommandLine.Setting :=
    [⟨CommandLine.levelOption, Bytes.ofString "debug", true⟩,
      ⟨CommandLine.engineOption, Bytes.ofString "/l", false⟩]
  let args : List String := ["", "--config", "--", "--help", "it's"]
  let invocation : Invocation Recording.Recorder :=
    { parser := .ofOptions
      toml := Toml.codec
      program := Bytes.ofString "jsm"
      args := settings.flatMap CommandLine.Setting.arguments ++ args.map Bytes.ofString
      environment := []
      tree := { nodes := #[.directory Node.root [(Bytes.ofString "l", 1)], .library Symbol.all] }
      binDir := Bytes.ofString "/bin"
      input := []
      engine := {}
      steps := 0 }
  have valid : ∀ setting ∈ settings, setting.Valid := by
    intro setting listed
    rcases List.mem_pair.mp listed with rfl | rfl
    · exact ⟨by decide, ⟨_, _, rfl, .inr ⟨"debug", by decide, rfl⟩⟩, by decide, by decide⟩
    · exact ⟨by decide, ⟨_, _, rfl, .inl rfl⟩, by decide, by decide⟩
  have submitted : invocation.run.submissions.head?.isSome = true := by decide +kernel
  rcases Option.isSome_iff_exists.mp submitted with ⟨submission, first⟩
  have given : invocation.args =
      settings.flatMap CommandLine.Setting.arguments ++ args.map Bytes.ofString := rfl
  rcases args_published invocation
      (CommandDeclaration.ofOptions_honours CommandLine.declaration_wellFormed) given (by decide)
      valid (by decide) with ⟨line, parsed, holds, published, begins⟩
  refine ⟨invocation, line, submission, _, rfl, by decide, parsed,
    (holds.engine _).mpr ⟨_, List.mem_cons_of_mem _ List.mem_cons_self, rfl, rfl⟩,
    (holds.level _).mpr ⟨_, List.mem_cons_self, rfl, rfl⟩, ?_, holds.args, first,
    begins submission first, ?_⟩
  · apply Option.eq_none_iff_forall_ne_some.mpr
    intro path given
    rcases (holds.config path).mp given with ⟨setting, listed, same, _⟩
    rcases List.mem_pair.mp listed with rfl | rfl
    · exact absurd same (by decide)
    · exact absurd same (by decide)
  · have named : Utf8.decodeLossy invocation.program = "jsm" := by decide +kernel
    rw [published, named]
    rfl

end Invocation

end SessionHost
