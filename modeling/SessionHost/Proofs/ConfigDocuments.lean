import SessionHost.Config.Document
import SessionHost.Proofs.Encoding
import SessionHost.Proofs.Sections
import SessionHost.Proofs.Selections

namespace SessionHost

/-!
# Configurations as documents

A configuration is written unless its library path is not UTF-8 or one of its numbers
is too large, and what was written is read back.  So is every selection of its settings,
laid out in any order.  Each setting that was left out then has its default: a section
that is there but incomplete leaves the same defaults as one that is missing.
-/

namespace HostConfig

open Toml (Decoder Section Setting Line Entries Item Selection LaysOut setting)

variable {config : HostConfig} {name : String}

/-! ## What can be written -/

/-- The library path is UTF-8, and no number is larger than the integers of a document. -/
structure Renderable (config : HostConfig) : Prop where
  library : ∀ path, config.library = some path → ∃ text, Bytes.ofString text = path
  chunkSize : config.registry.chunkSize ≤ Toml.Number.largest
  maxSessions : ∀ limit, config.registry.maxSessions = some limit →
    (limit : Int) ≤ Toml.Number.largest
  maxInput : config.console.maxInput ≤ Toml.Number.largest

theorem path_fits {text : String} {path : Path} (encoded : Bytes.ofString text = path) :
    (Toml.Plain.path path).Fits :=
  Option.isSome_iff_exists.mpr ⟨text, Utf8.decode?_eq_some_iff.mpr encoded⟩

/-- A configuration is one that can be written if there is room for all its settings. -/
theorem renderable_iff : config.Renderable ↔
    ∀ part ∈ config.sections, ∀ setting ∈ part.settings, setting.value.Fits := by
  constructor
  · intro renderable
    have library : ∀ setting ∈ config.library.toList.map (pathSetting "library"),
        setting.value.Fits := by
      intro setting listed
      rcases List.mem_map.mp listed with ⟨path, isPath, rfl⟩
      rcases renderable.library path (Option.mem_toList.mp isPath) with ⟨text, encoded⟩
      exact path_fits encoded
    have maxSessions : ∀ setting ∈ config.registry.maxSessions.toList.map
        (numberSetting "max_sessions"), setting.value.Fits := by
      intro setting listed
      rcases List.mem_map.mp listed with ⟨limit, isLimit, rfl⟩
      exact renderable.maxSessions limit (Option.mem_toList.mp isLimit)
    simp only [sections, List.forall_mem_cons]
    exact ⟨library, ⟨renderable.chunkSize, maxSessions⟩,
      ⟨trivial, renderable.maxInput, trivial, List.forall_mem_nil _⟩,
      ⟨trivial, List.forall_mem_nil _⟩, ⟨trivial, List.forall_mem_nil _⟩, List.forall_mem_nil _⟩
  · intro fits
    simp only [sections, List.forall_mem_cons] at fits
    rcases fits with ⟨library, ⟨chunkSize, maxSessions⟩, ⟨_, maxInput, _⟩, _⟩
    refine ⟨?_, chunkSize, ?_, maxInput⟩
    · intro path isPath
      have fitting := library (pathSetting "library" path)
        (List.mem_map_of_mem (Option.mem_toList.mpr isPath))
      rcases Option.isSome_iff_exists.mp fitting with ⟨text, decoded⟩
      exact ⟨text, Utf8.decode?_eq_some_iff.mp decoded⟩
    · intro limit isLimit
      exact maxSessions (numberSetting "max_sessions" limit)
        (List.mem_map_of_mem (Option.mem_toList.mpr isLimit))

/-! ## The sections of a configuration -/

/-- The settings have distinct names out of some that need no quotes. -/
theorem wellFormed_of_names {settings : List Setting} (names : List String)
    (bareName : Toml.Bare name) (bare : ∀ name ∈ names, Toml.Bare name) (distinct : names.Nodup)
    (listed : (settings.map Setting.name).Sublist names)
    (fits : ∀ setting ∈ settings, setting.value.Fits) : Section.WellFormed ⟨name, settings⟩ := by
  refine ⟨bareName, ?_, distinct.sublist listed⟩
  intro setting isSetting
  exact ⟨bare setting.name (listed.subset (List.mem_map_of_mem isSetting)),
    fits setting isSetting⟩

theorem sections_wellFormed (renderable : config.Renderable) :
    ∀ part ∈ config.sections, part.WellFormed := by
  intro part listed
  have fits := renderable_iff.mp renderable part listed
  simp only [sections, List.mem_cons, List.not_mem_nil, or_false] at listed
  rcases listed with rfl | rfl | rfl | rfl | rfl
  · apply wellFormed_of_names ["library"] (by decide +kernel) (by decide +kernel) (by decide) ?_
      fits
    cases config.library with
    | none => exact List.nil_sublist _
    | some path => exact List.Sublist.refl _
  · apply wellFormed_of_names ["chunk_size", "max_sessions"] (by decide +kernel)
      (by decide +kernel) (by decide) ?_ fits
    cases config.registry.maxSessions with
    | none => exact (List.nil_sublist _).cons_cons _
    | some limit => exact List.Sublist.refl _
  · exact wellFormed_of_names ["prompt", "max_input", "shutdown_sentence"] (by decide +kernel)
      (by decide +kernel) (by decide) (List.Sublist.refl _) fits
  · exact wellFormed_of_names ["level"] (by decide +kernel) (by decide +kernel) (by decide)
      (List.Sublist.refl _) fits
  · exact wellFormed_of_names ["enabled"] (by decide +kernel) (by decide +kernel) (by decide)
      (List.Sublist.refl _) fits

theorem sections_distinct (config : HostConfig) : (config.sections.map Section.name).Nodup := by
  show ["engine", "registry", "console", "log", "interrupt"].Nodup
  decide

/-! ## Reading a selection -/

/-- The chosen settings of a configuration, with the defaults for all others.  A setting
is chosen by the names of its section and its own. -/
def only (config : HostConfig) (chosen : String → String → Bool) : HostConfig :=
  let default : HostConfig := {}
  { library := if chosen "engine" "library" then config.library else default.library
    registry :=
      { chunkSize :=
          if chosen "registry" "chunk_size" then config.registry.chunkSize
          else default.registry.chunkSize
        maxSessions :=
          if chosen "registry" "max_sessions" then config.registry.maxSessions
          else default.registry.maxSessions }
    console :=
      { prompt :=
          if chosen "console" "prompt" then config.console.prompt else default.console.prompt
        maxInput :=
          if chosen "console" "max_input" then config.console.maxInput else default.console.maxInput
        shutdownSentence :=
          if chosen "console" "shutdown_sentence" then config.console.shutdownSentence
          else default.console.shutdownSentence }
    level := if chosen "log" "level" then config.level else default.level
    interrupts := if chosen "interrupt" "enabled" then config.interrupts else default.interrupts }

/-! ## Reading -/

section Decoding

variable {decoder : Decoder}

/-- The text of an item as a path. -/
def path? (decoder : Decoder) (item : Item) : Option (Option Path) :=
  (decoder.text? item).map fun text => some (Bytes.ofString text)

theorem path?_item (lawful : decoder.Lawful) {path : Path} (fits : (Toml.Plain.path path).Fits) :
    path? decoder (Toml.Plain.path path).item = some (some path) := by
  rcases Option.isSome_iff_exists.mp fits with ⟨text, decoded⟩
  have encoded : Bytes.ofString text = path := Utf8.decode?_eq_some_iff.mp decoded
  subst encoded
  unfold path? Toml.Plain.item
  dsimp only
  rw [lawful.text, Utf8.decodeLossy_ofString]
  rfl

theorem levelNamed_name (lawful : decoder.Lawful) (level : Level) :
    levelNamed decoder (.text level.name) = some level := by
  have listed : level.name ∈ Level.all.map (·.name) := by
    cases level with
    | trace => decide
    | debug => decide
    | info => decide
    | warn => decide
    | error => decide
  unfold levelNamed
  rw [lawful.choice _ _ listed]
  cases level with
  | trace => rfl
  | debug => rfl
  | info => rfl
  | warn => rfl
  | error => rfl

end Decoding

section Reading

variable {toml : Toml.Codec} {chosen : String → String → Bool} {parts : List Section}

/-- Read a setting that may have been chosen. -/
theorem setting_selected {sections : List Section} (selection : Selection sections chosen parts)
    (wellFormed : ∀ whole ∈ sections, whole.WellFormed)
    (distinct : (sections.map Section.name).Nodup) {whole : Section} (listed : whole ∈ sections)
    {α : Type} {read : Item → Option α} {default value : α}
    (isRead : setting read default ((whole.settings.map Setting.entry).lookup name) = some value) :
    setting read default (Entries.setting? (parts.map Section.entry) whole.name name) =
      some (if chosen whole.name name then value else default) := by
  rw [selection.setting?_eq wellFormed distinct listed]
  cases chosen whole.name name with
  | true => exact isRead
  | false => rfl

/-- A section that is missing is read like an empty one. -/
theorem exists_inner {sections : List Section} (selection : Selection sections chosen parts)
    {α : Type} {readSection : Item → Option α} {default : α}
    (empty : readSection (.table .header []) = some default) (part : String) :
    ∃ inner, setting readSection default (Entries.find? (parts.map Section.entry) part) =
        readSection (.table .header inner) ∧
      ∀ name, Entries.setting? (parts.map Section.entry) part name = Entries.find? inner name := by
  unfold Entries.setting?
  rcases selection.find?_eq part with absent | ⟨inner, present⟩
  · rw [absent]
    exact ⟨[], empty.symm, fun name => rfl⟩
  · rw [present]
    exact ⟨inner, rfl, fun name => rfl⟩

/-- A section of one setting is read as this setting is. -/
theorem setting_single {sections : List Section} (selection : Selection sections chosen parts)
    {α : Type} {readSection read : Item → Option α} {default : α}
    (single : ∀ entries : Entries,
      readSection (.table .header entries) = setting read default (entries.find? name))
    (part : String) :
    setting readSection default (Entries.find? (parts.map Section.entry) part) =
      setting read default (Entries.setting? (parts.map Section.entry) part name) := by
  rcases exists_inner selection (single []) part with ⟨inner, isInner, found⟩
  rw [isInner, single, found]

/-- What is found under the names of the settings is read as this configuration. -/
structure ReadAs (decoder : Decoder) (found : String → String → Option Item)
    (config : HostConfig) : Prop where
  library : setting (path? decoder) none (found "engine" "library") = some config.library
  chunkSize : setting decoder.number? ({} : RegistryConfig).chunkSize
    (found "registry" "chunk_size") = some config.registry.chunkSize
  maxSessions : setting (fun item => (decoder.number? item).map some)
    ({} : RegistryConfig).maxSessions (found "registry" "max_sessions") =
      some config.registry.maxSessions
  prompt : setting decoder.text? ({} : ConsoleConfig).prompt
    (found "console" "prompt") = some config.console.prompt
  maxInput : setting decoder.number? ({} : ConsoleConfig).maxInput
    (found "console" "max_input") = some config.console.maxInput
  shutdownSentence : setting decoder.text? ({} : ConsoleConfig).shutdownSentence
    (found "console" "shutdown_sentence") = some config.console.shutdownSentence
  level : setting (levelNamed decoder) .default (found "log" "level") = some config.level
  interrupts : setting decoder.flag? true (found "interrupt" "enabled") = some config.interrupts

theorem readAs_selection (lawful : toml.Lawful) (renderable : config.Renderable)
    (selection : Selection config.sections chosen parts) :
    ReadAs toml.toDecoder (Entries.setting? (parts.map Section.entry)) (config.only chosen) := by
  have selected {whole : Section} (listed : whole ∈ config.sections) {name : String}
      {α : Type} {read : Item → Option α} {default value : α} :
      setting read default ((whole.settings.map Setting.entry).lookup name) = some value →
      setting read default (Entries.setting? (parts.map Section.entry) whole.name name) =
        some (if chosen whole.name name then value else default) :=
    setting_selected selection (sections_wellFormed renderable) (sections_distinct config) listed
  unfold sections at selected
  simp only [List.mem_cons, forall_eq_or_imp] at selected
  rcases selected with ⟨engine, registry, console, log, interrupt, _⟩
  constructor
  · apply engine
    cases isLibrary : config.library with
    | none => rfl
    | some path =>
        rcases renderable.library path isLibrary with ⟨text, encoded⟩
        exact path?_item lawful.toLawful (path_fits encoded)
  · exact registry (lawful.number config.registry.chunkSize renderable.chunkSize)
  · apply registry
    cases isLimit : config.registry.maxSessions with
    | none => rfl
    | some limit =>
        exact congrArg (Option.map some)
          (lawful.number limit (renderable.maxSessions limit isLimit))
  · exact console (lawful.text config.console.prompt)
  · exact console (lawful.number config.console.maxInput renderable.maxInput)
  · exact console (lawful.text config.console.shutdownSentence)
  · exact log (levelNamed_name lawful.toLawful config.level)
  · exact interrupt (lawful.flag config.interrupts)

/-- Sections that are tables, or missing, are read setting by setting. -/
theorem ofEntries_of_readAs {decoder : Decoder} (lawful : decoder.Lawful)
    {sections : List Section} (selection : Selection sections chosen parts)
    (readAs : ReadAs decoder (Entries.setting? (parts.map Section.entry)) config) :
    ofEntries decoder (parts.map Section.entry) = some config := by
  have engine : setting (libraryOf decoder) none
      (Entries.find? (parts.map Section.entry) "engine") = some config.library := by
    rw [← readAs.library]
    apply setting_single selection
    intro entries
    unfold libraryOf
    rw [lawful.fields]
    rfl
  have registry : setting (registryOf decoder) {}
      (Entries.find? (parts.map Section.entry) "registry") = some config.registry := by
    have empty : registryOf decoder (.table .header []) = some {} := by
      unfold registryOf
      rw [lawful.fields]
      rfl
    rcases exists_inner selection empty "registry" with ⟨inner, isInner, found⟩
    have chunkSize := readAs.chunkSize
    have maxSessions := readAs.maxSessions
    rw [found] at chunkSize maxSessions
    rw [isInner]
    unfold registryOf
    simp only [lawful.fields, Option.bind_eq_bind, Option.bind_some, chunkSize, maxSessions]
    rfl
  have console : setting (consoleOf decoder) {}
      (Entries.find? (parts.map Section.entry) "console") = some config.console := by
    have empty : consoleOf decoder (.table .header []) = some {} := by
      unfold consoleOf
      rw [lawful.fields]
      rfl
    rcases exists_inner selection empty "console" with ⟨inner, isInner, found⟩
    have prompt := readAs.prompt
    have maxInput := readAs.maxInput
    have shutdownSentence := readAs.shutdownSentence
    rw [found] at prompt maxInput shutdownSentence
    rw [isInner]
    unfold consoleOf
    simp only [lawful.fields, Option.bind_eq_bind, Option.bind_some, prompt, maxInput,
      shutdownSentence]
    rfl
  have level : setting (levelOf decoder) .default
      (Entries.find? (parts.map Section.entry) "log") = some config.level := by
    rw [← readAs.level]
    apply setting_single selection
    intro entries
    unfold levelOf
    rw [lawful.fields]
    rfl
  have interrupts : setting (interruptsOf decoder) true
      (Entries.find? (parts.map Section.entry) "interrupt") = some config.interrupts := by
    rw [← readAs.interrupts]
    apply setting_single selection
    intro entries
    unfold interruptsOf
    rw [lawful.fields]
    rfl
  unfold ofEntries
  rw [engine, registry, console, level, interrupts]
  rfl

/-- A document that lays out a selection is read as the selected settings. -/
theorem parse_selection (lawful : toml.Lawful) (renderable : config.Renderable)
    (selection : Selection config.sections chosen parts) {lines : List Line}
    (laysOut : LaysOut lines parts) :
    parse toml (toml.document lines) = .ok (config.only chosen) := by
  have wellFormed := sections_wellFormed renderable
  have read := lawful.read_document laysOut (selection.wellFormed wellFormed) selection.distinct
  have readAs := readAs_selection lawful renderable selection
  unfold parse
  rw [read]
  dsimp only
  rw [ofEntries_of_readAs lawful.toLawful selection readAs]

end Reading

/-! ## Whole documents -/

/-- Whatever library writes and reads the documents: a configuration that can be written
is read back from its document, and no other configuration has a document. -/
theorem parse_render {toml : Toml.Codec} (lawful : toml.Lawful) (config : HostConfig) :
    (config.Renderable →
      ∃ document, config.render toml = .ok document ∧ parse toml document = .ok config) ∧
    (¬ config.Renderable → ∃ fault, config.render toml = .error fault) := by
  constructor
  · intro renderable
    have distinct := sections_distinct config
    rcases lawful.write_lines _ (sections_wellFormed renderable) distinct with
      ⟨lines, laysOut, written⟩
    have everything := Selection.refl distinct
    exact ⟨toml.document lines, written, parse_selection lawful renderable everything laysOut⟩
  · intro notRenderable
    apply lawful.write_fault
    by_contra fitting
    simp only [not_exists, not_and, not_not] at fitting
    exact notRenderable (renderable_iff.mpr fitting)

/-- Quotes in runs, line ends at both ends, a backslash, a control character and the
largest number that can be written. -/
def awkward : HostConfig where
  library := some (Bytes.ofString "\\lib\"é")
  registry := { maxSessions := some 9223372036854775807 }
  console := { prompt := "\n\"\"\"''' \r\n", shutdownSentence := "\x00'" }

theorem parse_render_awkward :
    (∃ document, awkward.render Toml.codec = .ok document ∧
      parse Toml.codec document = .ok awkward) ∧
    ∃ fault, render Toml.codec { registry := { maxSessions := some 9223372036854775808 } } =
      .error fault := by
  constructor
  · apply (parse_render Toml.codec_lawful _).1
    refine ⟨?_, by decide, ?_, by decide⟩
    · intro path isPath
      exact ⟨_, Option.some.inj isPath⟩
    · intro limit isLimit
      cases isLimit
      decide
  · apply (parse_render Toml.codec_lawful _).2
    intro renderable
    exact absurd (renderable.maxSessions 9223372036854775808 rfl) (by decide)

/-! ## Partial documents -/

/-- Out of the document of a configuration any settings may be chosen, and laid out in
any order.  Whatever library it is, the new document gives the chosen settings, and the
defaults for the others. -/
theorem parse_partial_document {toml : Toml.Codec} (lawful : toml.Lawful)
    (renderable : config.Renderable) :
    ∃ written, LaysOut written config.sections ∧
      config.render toml = .ok (toml.document written) ∧
      ∀ chosen parts lines, Selection config.sections chosen parts → LaysOut lines parts →
        parse toml (toml.document lines) = .ok (config.only chosen) := by
  rcases lawful.write_lines _ (sections_wellFormed renderable) (sections_distinct config) with
    ⟨written, laysOut, isWritten⟩
  exact ⟨written, laysOut, isWritten,
    fun _ _ _ selection => parse_selection lawful renderable selection⟩

/-- Two sections out of five, with their settings the other way round, a section without
settings and blank lines where they need not be. -/
theorem parse_partial_document_reordered :
    parse Toml.codec ("[interrupt]\n\nenabled = false\n[console]\n" ++
        "shutdown_sentence = \"bye\"\nprompt = \"> \"\n\n\n[registry]\n") =
      .ok { console := { prompt := "> ", shutdownSentence := "bye" }, interrupts := false } := by
  have renderable : Renderable
      { registry := { chunkSize := 5, maxSessions := some 7 }
        console := { prompt := "> ", maxInput := 9, shutdownSentence := "bye" }
        level := .error
        interrupts := false } := by
    refine ⟨?_, by decide, ?_, by decide⟩
    · intro path isPath
      cases isPath
    · intro limit isLimit
      cases isLimit
      decide
  rcases parse_partial_document Toml.codec_lawful renderable with ⟨_, _, _, parsed⟩
  exact parsed
    (fun part name => (part, name) ∈ [("console", "prompt"), ("console", "shutdown_sentence"),
      ("interrupt", "enabled")])
    [⟨"interrupt", [⟨"enabled", .flag false⟩]⟩,
      ⟨"console", [textSetting "shutdown_sentence" "bye", textSetting "prompt" "> "]⟩,
      ⟨"registry", []⟩]
    [.header "interrupt", .blank, .entry ⟨"enabled", .flag false⟩, .header "console",
      .entry (textSetting "shutdown_sentence" "bye"), .entry (textSetting "prompt" "> "),
      .blank, .blank, .header "registry"]
    ⟨by decide, by decide, by decide⟩ rfl

end HostConfig

end SessionHost
