import SessionHost.Program.CommandLine
import SessionHost.Proofs.Encoding

namespace SessionHost

/-!
# Options in front of the engine's arguments

How a command line is taken apart is for a library to say.  What the host relies on
is stated here, as laws of a library for a declaration.  A declared option takes its
value in either spelling and leaves the rest to be read as it would be alone; what may
begin with a hyphen and is no option is an argument; and the first argument of a
trailing list makes an argument of everything behind it.

From these laws it follows where a command line of options and engine arguments is
taken apart: the options are read one by one from the front, and what is found behind
them is what is found without them.
-/

namespace OptionDeclaration

/-- The option by its name. -/
def flag (option : OptionDeclaration) : Bytes :=
  hyphen :: hyphen :: Bytes.ofString option.name

/-- The arguments that give the option a value, which stands behind an equals sign or
is an argument of its own. -/
def given (option : OptionDeclaration) (value : Bytes) (attached : Bool) : List Bytes :=
  if attached then [option.flag ++ equalsSign :: value] else [option.flag, value]

/-- The option can take the value.  As an argument of its own the value must not begin
with a hyphen. -/
structure Takes (option : OptionDeclaration) (value : Bytes) (attached : Bool) : Prop where
  action : ∃ shown possible, option.action = .value shown possible ∧
    (possible = [] ∨ ∃ text ∈ possible, value = Bytes.ofString text)
  given : value ≠ []
  apart : attached = false → value.head? ≠ some hyphen

end OptionDeclaration

/-- What was found, with an option in front of it. -/
def Matches.put (found : Matches) (option : OptionDeclaration) (value : Bytes) : Matches :=
  { found with values := (option.name, value) :: found.values }

/-- What a library makes of command lines that follow a declaration. -/
structure ArgumentParser.Honours (parser : ArgumentParser) (declared : CommandDeclaration) :
    Prop where
  /-- Nothing has to be given. -/
  nothing : ∀ program, parser.parse declared program [] = .ok (.matched {})
  /-- An option takes its value, and the rest is read as it would be alone. -/
  value_taken : ∀ {program option value attached rest found},
    option ∈ declared.options → option.Takes value attached →
    parser.parse declared program rest = .ok (.matched found) →
    found.value? option.name = none →
    parser.parse declared program (option.given value attached ++ rest) =
      .ok (.matched (found.put option value))
  /-- An argument may begin with a hyphen, though not with two. -/
  allow_hyphen_values : declared.args.allowHyphenValues = true →
    ∀ program (arg : String), ¬ [hyphen, hyphen] <+: Bytes.ofString arg →
      parser.parse declared program [Bytes.ofString arg] = .ok (.matched { args := [arg] })
  /-- Behind the first argument nothing is looked at any more. -/
  trailing_var_arg : declared.args.trailingVarArg = true →
    ∀ program (first : String) (rest : List String),
      parser.parse declared program [Bytes.ofString first] = .ok (.matched { args := [first] }) →
      parser.parse declared program ((first :: rest).map Bytes.ofString) =
        .ok (.matched { args := first :: rest })

namespace CommandLine

/-- A host option that is given on a command line. -/
structure Setting where
  option : OptionDeclaration
  value : Bytes
  /-- The value stands behind an equals sign, and is no argument of its own. -/
  attached : Bool := false
deriving DecidableEq, Repr

namespace Setting

def arguments (setting : Setting) : List Bytes :=
  setting.option.given setting.value setting.attached

/-- The host has the option, and the option can take its value. -/
structure Valid (setting : Setting) : Prop where
  declared : setting.option ∈ declaration.options
  takes : setting.option.Takes setting.value setting.attached

def entry (setting : Setting) : String × Bytes :=
  (setting.option.name, setting.value)

end Setting

variable {settings : List Setting} {args : List String}

/-! ## What is found -/

/-- An option is given by a setting where options are given once at most. -/
theorem value?_settings (once : (settings.map (·.option.name)).Nodup) (name : String)
    (value : Bytes) :
    (settings.map Setting.entry).lookup name = some value ↔
      ∃ setting ∈ settings, setting.option.name = name ∧ setting.value = value := by
  induction settings with
  | nil => simp
  | cons setting rest inductionHypothesis =>
      rw [List.map_cons, List.nodup_cons] at once
      rw [List.map_cons, List.exists_mem_cons_iff, Setting.entry, List.lookup_cons]
      by_cases same : name = setting.option.name
      · subst name
        have elsewhere : ¬ ∃ other ∈ rest,
            other.option.name = setting.option.name ∧ other.value = value := by
          rintro ⟨other, listed, again, _⟩
          exact once.1 (List.mem_map.mpr ⟨other, listed, again⟩)
        simp [elsewhere]
      · have unequal : (name == setting.option.name) = false := beq_false_of_ne same
        rw [unequal, inductionHypothesis once.2]
        simp [Ne.symm same]

/-- The engine's arguments alone, whatever stands behind the first of them. -/
theorem parse_args {parser : ArgumentParser} (honours : parser.Honours declaration)
    (program : Bytes) (apart : ∀ first ∈ args.head?, ¬ [hyphen, hyphen] <+: Bytes.ofString first) :
    parser.parse declaration program (args.map Bytes.ofString) = .ok (.matched { args }) := by
  cases args with
  | nil => exact honours.nothing program
  | cons first rest =>
      exact honours.trailing_var_arg rfl program first rest
        (honours.allow_hyphen_values rfl program first (apart first rfl))

/-- The induction is on the options; what is found behind each of them has the values
of those that follow it, and its own is not among them. -/
theorem parse_settings {parser : ArgumentParser} (honours : parser.Honours declaration)
    (program : Bytes) (once : (settings.map (·.option.name)).Nodup)
    (valid : ∀ setting ∈ settings, setting.Valid)
    (apart : ∀ first ∈ args.head?, ¬ [hyphen, hyphen] <+: Bytes.ofString first) :
    parser.parse declaration program
        (settings.flatMap Setting.arguments ++ args.map Bytes.ofString) =
      .ok (.matched { values := settings.map Setting.entry, args }) := by
  induction settings with
  | nil => exact parse_args honours program apart
  | cons setting rest inductionHypothesis =>
      rw [List.map_cons, List.nodup_cons] at once
      rw [List.forall_mem_cons] at valid
      have free : (rest.map Setting.entry).lookup setting.option.name = none := by
        apply Option.eq_none_iff_forall_ne_some.mpr
        intro value present
        rcases (value?_settings once.2 _ _).mp present with ⟨other, listed, again, _⟩
        exact once.1 (List.mem_map.mpr ⟨other, listed, again⟩)
      rw [List.flatMap_cons, List.append_assoc]
      exact honours.value_taken valid.1.declared valid.1.takes
        (inductionHypothesis once.2 valid.2) free

/-! ## What it comes to -/

theorem level_of_name (level : Level) :
    (Utf8.decode? (Bytes.ofString level.name)).bind Level.ofName? = some level := by
  rw [Utf8.decode?_eq_some_iff.mpr rfl]
  cases level <;> decide

/-- The options have the values that they were given, and the engine has its arguments. -/
structure Holds (line : CommandLine) (settings : List Setting) (args : List String) : Prop where
  config : ∀ path, line.config = some path ↔
    ∃ setting ∈ settings, setting.option = configOption ∧ setting.value = path
  engine : ∀ path, line.engine = some path ↔
    ∃ setting ∈ settings, setting.option = engineOption ∧ setting.value = path
  level : ∀ level : Level, line.level = some level ↔
    ∃ setting ∈ settings, setting.option = levelOption ∧ setting.value = Bytes.ofString level.name
  printConfig : line.printConfig = false
  args : line.args = args

/-- An option of the host is known by its name. -/
theorem option_of_name {option other : OptionDeclaration} (listed : option ∈ declaration.options)
    (known : other ∈ declaration.options) : option.name = other.name ↔ option = other := by
  have apart : ∀ option ∈ declaration.options, ∀ other ∈ declaration.options,
      option.name = other.name → option = other := by decide
  exact ⟨apart option listed other known, congrArg OptionDeclaration.name⟩

/-- Names lead to the settings of the options themselves. -/
theorem value?_option (once : (settings.map (·.option.name)).Nodup)
    (valid : ∀ setting ∈ settings, setting.Valid) {option : OptionDeclaration}
    (known : option ∈ declaration.options) (value : Bytes) :
    (settings.map Setting.entry).lookup option.name = some value ↔
      ∃ setting ∈ settings, setting.option = option ∧ setting.value = value := by
  rw [value?_settings once]
  apply exists_congr
  intro setting
  apply and_congr_right
  intro listed
  rw [option_of_name (valid setting listed).declared known]

/-- A level that was given is the level of its name. -/
theorem level_of_setting {setting : Setting} (valid : setting.Valid)
    (which : setting.option = levelOption) :
    ∃ level : Level, setting.value = Bytes.ofString level.name := by
  rcases valid.takes.action with ⟨shown, possible, action, listed⟩
  rw [which] at action
  cases action
  rcases listed with none | ⟨text, listed, same⟩
  · cases none
  · rcases List.mem_map.mp listed with ⟨level, _, rfl⟩
    exact ⟨level, same⟩

theorem ofMatches_holds (once : (settings.map (·.option.name)).Nodup)
    (valid : ∀ setting ∈ settings, setting.Valid) :
    (ofMatches { values := settings.map Setting.entry, args }).Holds settings args where
  config := value?_option once valid (by decide)
  engine := value?_option once valid (by decide)
  level := by
    intro level
    constructor
    · intro read
      rcases Option.bind_eq_some_iff.mp read with ⟨value, given, named⟩
      rcases (value?_option once valid (by decide) value).mp given with
        ⟨setting, listed, which, rfl⟩
      rcases level_of_setting (valid setting listed) which with ⟨other, same⟩
      rw [same, level_of_name] at named
      cases named
      exact ⟨setting, listed, which, same⟩
    · intro given
      exact Option.bind_eq_some_iff.mpr
        ⟨_, (value?_option once valid (by decide) _).mpr given, level_of_name level⟩
  printConfig := rfl
  args := rfl

/-! ## Texts -/

/-- A text begins with two hyphens where its bytes do. -/
theorem apart_ofString {text : String} (apart : ¬ ['-', '-'] <+: text.toList) :
    ¬ [hyphen, hyphen] <+: Bytes.ofString text := by
  rintro ⟨rest, same⟩
  have read := Utf8.units_flatMap text.toList
  have bytes : text.toList.flatMap String.utf8EncodeChar = hyphen :: hyphen :: rest := same.symm
  have first (rest : Bytes) : Utf8.unit hyphen rest = (some '-', rest) := rfl
  rw [bytes, Utf8.units_cons, first, Utf8.units_cons, first] at read
  match chars : text.toList with
  | [] => simp [chars] at read
  | [char] => simp [chars] at read
  | char :: next :: more =>
      rw [chars] at read apart
      injection read with one read
      injection read with two _
      injection one with one
      injection two with two
      subst one two
      exact apart ⟨more, rfl⟩

end CommandLine

end SessionHost
