import SessionHost.Toml.Codec

namespace SessionHost

/-!
# What a document library is relied on for

The library that writes and reads documents is not the host's own, and the host relies
on little of what it does.  A document has lines of three kinds: blank ones, headers
of sections, and settings.  A library writes the settings of sections as such lines, and
it reads such lines as tables, setting by setting, whoever has put them together.  How it
spells a value is left to the library; it has to know its own spelling again.

None of the laws knows of configurations, and each is about one thing that a library does.
-/

namespace Toml

/-! ## Lines -/

/-- A name that is written without quotes. -/
def Bare (name : String) : Prop :=
  name.toList ≠ [] ∧ ∀ char ∈ name.toList, char.isAlphanum ∨ char = '-' ∨ char = '_'

instance (name : String) : Decidable (Bare name) :=
  @instDecidableAnd _ _ inferInstance (List.decidableBAll _ _)

/-- A line of a document. -/
inductive Line where
  | blank
  | header (name : String)
  | entry (setting : Setting)

/-- A line that stands for nothing. -/
def Line.isBlank : Line → Bool
  | blank => true
  | _ => false

/-- The lines of a section. -/
def Section.lines (part : Section) : List Line :=
  .header part.name :: part.settings.map .entry

/-- Blank lines aside, the lines are those of the sections, one section after another. -/
def LaysOut (lines : List Line) (parts : List Section) : Prop :=
  lines.filter (!·.isBlank) = parts.flatMap Section.lines

/-- The section and its settings have names that need no quotes, no two settings have
the same one, and all values have room in a document. -/
structure Section.WellFormed (part : Section) : Prop where
  name : Bare part.name
  settings : ∀ setting ∈ part.settings, Bare setting.name ∧ setting.value.Fits
  distinct : (part.settings.map Setting.name).Nodup

namespace Codec

variable (toml : Codec)

/-- A line as the library spells it. -/
def line : Line → List Char
  | .blank => ['\n']
  | .header name => '[' :: name.toList ++ [']', '\n']
  | .entry setting => setting.name.toList ++ " = ".toList ++ toml.spell setting.value ++ ['\n']

/-- Lines as one text. -/
def document (lines : List Line) : String :=
  String.ofList (lines.flatMap toml.line)

/-- A setting with the item that its spelling stands for. -/
def entry? (setting : Setting) : Option (String × Item) :=
  (toml.item? (toml.spell setting.value)).map fun item => (setting.name, item)

/-- A section with the table of its settings. -/
def table? (part : Section) : Option (String × Item) :=
  (part.settings.mapM toml.entry?).map fun entries => (part.name, .table .header entries)

end Codec

/-! ## Values -/

/-- A value as a document holds it. -/
def Plain.item : Plain → Item
  | text content => .text content
  | path bytes => .text (Utf8.decodeLossy bytes)
  | number value => .integer value
  | flag value => .boolean value

/-- A setting as an entry of its section's table. -/
def Setting.entry (setting : Setting) : String × Item :=
  (setting.name, setting.value.item)

/-- A section as an entry of the outermost table. -/
def Section.entry (part : Section) : String × Item :=
  (part.name, .table .header (part.settings.map Setting.entry))

/-! ## The laws -/

/-- The values that a program finds in items. -/
structure Decoder.Lawful (decoder : Decoder) : Prop where
  /-- The fields of a record are found in a table by their names. -/
  fields : ∀ names entries,
    decoder.fields? names (.table .header entries) = some (Entries.find? entries)
  text : ∀ content, decoder.text? (.text content) = some content
  number : ∀ value : Nat, (value : Int) ≤ Number.largest →
    decoder.number? (.integer value) = some value
  flag : ∀ value, decoder.flag? (.boolean value) = some value
  /-- A name is one choice out of those that it is among. -/
  choice : ∀ names, ∀ name ∈ names, decoder.choice? names (.text name) = some name

/-- What a library makes of values, sections and lines. -/
structure Codec.Lawful (toml : Codec) : Prop extends toml.toDecoder.Lawful where
  /-- The spelling of a value stands for this value. -/
  item_spell : ∀ value : Plain, value.Fits → toml.item? (toml.spell value) = some value.item
  /-- Sections are written line by line, maybe with blank lines in between. -/
  write_lines : ∀ sections : List Section, (∀ part ∈ sections, part.WellFormed) →
    (sections.map Section.name).Nodup →
      ∃ lines, LaysOut lines sections ∧ toml.write sections = .ok (toml.document lines)
  /-- What there is no room for is not written. -/
  write_fault : ∀ sections : List Section,
    (∃ part ∈ sections, ∃ setting ∈ part.settings, ¬ setting.value.Fits) →
      ∃ fault, toml.write sections = .error fault
  /-- Lines that lay out sections are read as one table a section, in which each setting
  has the item that stands behind its name. -/
  read_lines : ∀ lines sections, LaysOut lines sections →
    (∀ part ∈ sections, part.WellFormed) → (sections.map Section.name).Nodup →
      toml.read (toml.document lines) = sections.mapM toml.table?

theorem mapM_eq_map {α β : Type} {change : α → Option β} {meaning : α → β} {things : List α}
    (means : ∀ thing ∈ things, change thing = some (meaning thing)) :
    things.mapM change = some (things.map meaning) := by
  induction things with
  | nil => rfl
  | cons thing things inductionHypothesis =>
      have onward := inductionHypothesis fun other listed =>
        means other (List.mem_cons_of_mem thing listed)
      rw [List.mapM_cons, means thing List.mem_cons_self, onward]
      rfl

namespace Codec

variable {toml : Codec}

/-- A library that knows its own spelling finds in a section what was put there. -/
theorem table?_eq (spelled : ∀ value : Plain, value.Fits →
    toml.item? (toml.spell value) = some value.item) {part : Section}
    (wellFormed : part.WellFormed) : toml.table? part = some part.entry := by
  have entries : part.settings.mapM toml.entry? = some (part.settings.map Setting.entry) := by
    apply mapM_eq_map
    intro setting listed
    unfold entry?
    rw [spelled _ (wellFormed.settings setting listed).2]
    rfl
  unfold table?
  rw [entries]
  rfl

/-- A document that lays out sections is read as their tables. -/
theorem Lawful.read_document (lawful : toml.Lawful) {lines : List Line} {parts : List Section}
    (laysOut : LaysOut lines parts) (wellFormed : ∀ part ∈ parts, part.WellFormed)
    (distinct : (parts.map Section.name).Nodup) :
    toml.read (toml.document lines) = some (parts.map Section.entry) := by
  rw [lawful.read_lines lines parts laysOut wellFormed distinct]
  exact mapM_eq_map fun part listed => table?_eq lawful.item_spell (wellFormed part listed)

end Codec

end Toml

end SessionHost
