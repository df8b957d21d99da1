import SessionHost.Proofs.DocumentLines

namespace SessionHost

/-!
# Sections of a document

Lines that lay out sections become one table a section, with one item a setting.  The
order of the sections and of their settings is kept, but what is found under a name does
not depend on it.
-/

namespace Toml

variable {entries : Entries} {name : String}

namespace Entries

theorem alter_of_missing (missing : name ∉ entries.map Prod.fst)
    (change : Option Item → Option Item) :
    entries.alter name change = (change none).map fun item => entries ++ [(name, item)] := by
  induction entries with
  | nil => rfl
  | cons entry entries inductionHypothesis =>
      rw [List.map_cons, List.mem_cons, not_or] at missing
      unfold alter
      rw [if_neg (Ne.symm missing.1), inductionHypothesis missing.2, Option.map_map]
      rfl

theorem alter_last (missing : name ∉ entries.map Prod.fst) (item : Item)
    (change : Option Item → Option Item) :
    alter name change (entries ++ [(name, item)]) =
      (change (some item)).map fun item => entries ++ [(name, item)] := by
  induction entries with
  | nil => exact if_pos rfl
  | cons entry entries inductionHypothesis =>
      rw [List.map_cons, List.mem_cons, not_or] at missing
      rw [List.cons_append]
      unfold alter
      rw [if_neg (Ne.symm missing.1), inductionHypothesis missing.2, Option.map_map]
      rfl

end Entries

/-! ## From lines to tables -/

namespace Section

def statements (part : Section) : List Statement :=
  part.lines.filterMap Line.statement?

theorem statements_eq (part : Section) :
    part.statements = .table [part.name] ::
      part.settings.map fun setting => .assignment [setting.name] setting.value.item := by
  have settings : (part.settings.map Line.entry).filterMap Line.statement? =
      part.settings.map fun setting => .assignment [setting.name] setting.value.item := by
    rw [List.filterMap_map]
    exact congrFun List.filterMap_eq_map' part.settings
  unfold statements lines
  rw [← settings]
  rfl

end Section

namespace Draft

theorem carryOut_header (draft : Draft) (missing : name ∉ draft.root.map Prod.fst) :
    draft.carryOut (.table [name]) =
      some { root := draft.root ++ [(name, .table .header [])], current := [name] } := by
  have opened : Entries.openTable name draft.root =
      some (draft.root ++ [(name, .table .header [])]) :=
    Entries.alter_of_missing missing _
  have carried : draft.carryOut (.table [name]) =
      (Entries.openTable name draft.root).map fun root => { root, current := [name] } := rfl
  rw [carried, opened]
  rfl

theorem carryOut_assignment {root inner : Entries} {key : String} {item : Item}
    (missing : name ∉ root.map Prod.fst) (fresh : key ∉ inner.map Prod.fst) :
    carryOut { root := root ++ [(name, .table .header inner)], current := [name] }
        (.assignment [key] item) =
      some { root := root ++ [(name, .table .header (inner ++ [(key, item)]))]
             current := [name] } := by
  have added : Entries.assign [key] item inner = some (inner ++ [(key, item)]) :=
    Entries.alter_of_missing fresh _
  unfold carryOut Entries.within
  dsimp only
  rw [Entries.alter_last missing]
  dsimp only
  unfold Entries.within
  rw [added]
  rfl

/-- The induction is on the settings that are still to come. -/
theorem carryOut_settings {root inner : Entries} (missing : name ∉ root.map Prod.fst)
    {settings : List Setting}
    (distinct : (inner.map Prod.fst ++ settings.map Setting.name).Nodup) :
    (settings.map fun setting => Statement.assignment [setting.name] setting.value.item).foldlM
        carryOut { root := root ++ [(name, .table .header inner)], current := [name] } =
      some { root := root ++ [(name, .table .header (inner ++ settings.map Setting.entry))]
             current := [name] } := by
  induction settings generalizing inner with
  | nil =>
      rw [List.map_nil, List.map_nil, List.append_nil]
      rfl
  | cons setting settings inductionHypothesis =>
      have regrouped : inner.map Prod.fst ++ (setting :: settings).map Setting.name =
          (inner ++ [setting.entry]).map Prod.fst ++ settings.map Setting.name := by
        simp [Setting.entry]
      have fresh : setting.name ∉ inner.map Prod.fst := by
        intro taken
        exact (List.nodup_append.mp distinct).2.2 _ taken _ List.mem_cons_self rfl
      rw [regrouped] at distinct
      have onward := inductionHypothesis distinct
      rw [List.append_assoc] at onward
      rw [List.map_cons, List.foldlM_cons, carryOut_assignment missing fresh]
      exact onward

theorem carryOut_section {part : Section} (wellFormed : part.WellFormed) (draft : Draft)
    (missing : part.name ∉ draft.root.map Prod.fst) :
    part.statements.foldlM carryOut draft =
      some { root := draft.root ++ [part.entry], current := [part.name] } := by
  rw [Section.statements_eq, List.foldlM_cons, carryOut_header draft missing]
  exact carryOut_settings missing wellFormed.distinct

/-- The induction is on the sections that are still to come. -/
theorem carryOut_sections {parts : List Section} (wellFormed : ∀ part ∈ parts, part.WellFormed)
    (draft : Draft)
    (distinct : (draft.root.map Prod.fst ++ parts.map Section.name).Nodup) :
    ((parts.flatMap Section.statements).foldlM carryOut draft).map (·.root) =
      some (draft.root ++ parts.map Section.entry) := by
  induction parts generalizing draft with
  | nil =>
      rw [List.map_nil, List.append_nil]
      rfl
  | cons part parts inductionHypothesis =>
      have regrouped : draft.root.map Prod.fst ++ (part :: parts).map Section.name =
          (draft.root ++ [part.entry]).map Prod.fst ++ parts.map Section.name := by
        simp [Section.entry]
      have missing : part.name ∉ draft.root.map Prod.fst := by
        intro taken
        exact (List.nodup_append.mp distinct).2.2 _ taken _ List.mem_cons_self rfl
      rw [regrouped] at distinct
      have onward := inductionHypothesis
        (fun other listed => wellFormed other (List.mem_cons_of_mem part listed))
        { root := draft.root ++ [part.entry], current := [part.name] } distinct
      rw [List.flatMap_cons, List.foldlM_append,
        carryOut_section (wellFormed part List.mem_cons_self) draft missing]
      rw [List.append_assoc] at onward
      exact onward

end Draft

/-! ## Whole documents -/

namespace LaysOut

variable {lines : List Line} {parts : List Section}

theorem wellFormed (laysOut : LaysOut lines parts)
    (wellFormed : ∀ part ∈ parts, part.WellFormed) : ∀ line ∈ lines, line.WellFormed := by
  intro line listed
  cases blank : line.isBlank with
  | true =>
      cases line with
      | blank => trivial
      | header name => cases blank
      | entry setting => cases blank
  | false =>
      have told : line ∈ lines.filter (!·.isBlank) :=
        List.mem_filter.mpr ⟨listed, by rw [blank]; rfl⟩
      rw [laysOut] at told
      rcases List.mem_flatMap.mp told with ⟨part, isPart, told⟩
      have isWellFormed := wellFormed part isPart
      rcases List.mem_cons.mp told with rfl | told
      · exact isWellFormed.name
      · rcases List.mem_map.mp told with ⟨setting, isSetting, rfl⟩
        exact isWellFormed.settings setting isSetting

theorem statements (laysOut : LaysOut lines parts) :
    lines.filterMap Line.statement? = parts.flatMap Section.statements := by
  have blanks : lines.filterMap Line.statement? =
      (lines.filter (!·.isBlank)).filterMap Line.statement? := by
    rw [List.filterMap_filter]
    apply List.filterMap_congr
    intro line _
    cases line with
    | blank => rfl
    | header name => rfl
    | entry setting => rfl
  rw [blanks, laysOut, List.filterMap_flatMap]
  rfl

/-- A document that lays out sections is read as their tables. -/
theorem parse_document (laysOut : LaysOut lines parts)
    (wellFormed : ∀ part ∈ parts, part.WellFormed)
    (distinct : (parts.map Section.name).Nodup) :
    parse (codec.document lines) = some (parts.map Section.entry) := by
  have read := Statement.ofDocument_lines (laysOut.wellFormed wellFormed)
  unfold parse Codec.document
  rw [read, laysOut.statements]
  exact Draft.carryOut_sections wellFormed {} distinct

end LaysOut

theorem Section.write_eq (part : Section) : part.write = part.lines.flatMap codec.line := by
  have settings : (part.settings.map Line.entry).flatMap codec.line =
      part.settings.flatMap Setting.write := List.flatMap_map ..
  unfold Section.write Section.lines
  rw [List.flatMap_cons, settings]
  rfl

theorem laysOut_append {lines later : List Line} {part : Section} {parts : List Section}
    (told : lines.filter (!·.isBlank) = part.lines) (laysOut : LaysOut later parts) :
    LaysOut (lines ++ later) (part :: parts) := by
  unfold LaysOut
  rw [List.filter_append, told, laysOut, List.flatMap_cons]

theorem filter_lines (part : Section) : part.lines.filter (!·.isBlank) = part.lines := by
  apply List.filter_eq_self.mpr
  intro line listed
  rcases List.mem_cons.mp listed with rfl | listed
  · rfl
  · rcases List.mem_map.mp listed with ⟨setting, _, rfl⟩
    rfl

/-- Sections are laid out with a blank line between two of them.  The induction is on
the sections. -/
theorem exists_laysOut (parts : List Section) :
    ∃ lines, LaysOut lines parts ∧
      List.intercalate ['\n'] (parts.map Section.write) = lines.flatMap codec.line := by
  induction parts with
  | nil => exact ⟨[], rfl, rfl⟩
  | cons part parts inductionHypothesis =>
      cases parts with
      | nil =>
          refine ⟨part.lines ++ [], laysOut_append (filter_lines part) rfl, ?_⟩
          rw [List.append_nil, ← Section.write_eq]
          exact List.intercalate_singleton
      | cons next parts =>
          rcases inductionHypothesis with ⟨later, laysOut, written⟩
          have told : (part.lines ++ [Line.blank]).filter (!·.isBlank) = part.lines := by
            rw [List.filter_append, filter_lines]
            exact List.append_nil _
          refine ⟨part.lines ++ [.blank] ++ later, laysOut_append told laysOut, ?_⟩
          rw [List.flatMap_append, List.flatMap_append, ← Section.write_eq, ← written]
          exact List.intercalate_cons_cons

/-! ## The laws -/

theorem item?_write {plain : Plain} (fits : plain.Fits) : item? plain.write = some plain.item := by
  unfold item?
  rw [Plain.value_write fits]
  rfl

/-- A setting for which there is no room is found, and if there is none all are written. -/
theorem write_cases (parts : List Section) :
    ((∀ part ∈ parts, ∀ setting ∈ part.settings, setting.value.Fits) ∧
        write parts =
          .ok (String.ofList (List.intercalate ['\n'] (parts.map Section.write)))) ∨
      (∃ part ∈ parts, ∃ setting ∈ part.settings, ¬ setting.value.Fits) ∧
        ∃ fault, write parts = .error fault := by
  unfold write
  cases found : (parts.flatMap (·.settings)).find? fun setting => ¬ setting.value.Fits with
  | none =>
      refine .inl ⟨?_, rfl⟩
      intro part isPart setting isSetting
      have listed : setting ∈ parts.flatMap (·.settings) :=
        List.mem_flatMap.mpr ⟨part, isPart, isSetting⟩
      simpa using List.find?_eq_none.mp found setting listed
  | some setting =>
      rcases List.mem_flatMap.mp (List.mem_of_find?_eq_some found) with ⟨part, isPart, isSetting⟩
      exact .inr ⟨⟨part, isPart, setting, isSetting, by simpa using List.find?_some found⟩, _, rfl⟩

/-- The library that is written out here keeps all the laws. -/
theorem codec_lawful : codec.Lawful where
  fields := fun _ _ => rfl
  text := fun _ => rfl
  number := by
    intro value _
    have natural : (if 0 ≤ (value : Int) then some (value : Int).toNat else none) = some value := by
      rw [if_pos (Int.natCast_nonneg value), Int.toNat_natCast]
    exact natural
  flag := fun _ => rfl
  choice := by
    intro names name listed
    exact if_pos (List.contains_iff_mem.mpr listed)
  item_spell := fun _ fits => item?_write fits
  write_lines := by
    intro sections wellFormed _
    rcases exists_laysOut sections with ⟨lines, laysOut, isWritten⟩
    refine ⟨lines, laysOut, ?_⟩
    rcases write_cases sections with ⟨_, written⟩ | ⟨⟨part, isPart, setting, isSetting, crowded⟩, _⟩
    · rw [isWritten] at written
      exact written
    · exact absurd ((wellFormed part isPart).settings setting isSetting).2 crowded
  write_fault := by
    rintro sections ⟨part, isPart, setting, isSetting, crowded⟩
    rcases write_cases sections with ⟨fits, _⟩ | ⟨_, faulty⟩
    · exact absurd (fits part isPart setting isSetting) crowded
    · exact faulty
  read_lines := by
    intro lines sections laysOut wellFormed distinct
    have tables : sections.mapM codec.table? = some (sections.map Section.entry) :=
      mapM_eq_map fun part listed =>
        Codec.table?_eq (fun _ => item?_write) (wellFormed part listed)
    rw [tables]
    exact laysOut.parse_document wellFormed distinct

end Toml

end SessionHost
