import Mathlib.Data.List.Nodup
import SessionHost.Proofs.DocumentLaws

namespace SessionHost

/-!
# Sections with some of their settings

Out of the sections of a document some settings are chosen, and the sections are laid
out again with these settings only, in any order.  What is found in the new document is
what was found in the old one, where it was chosen, and nothing where it was not.
-/

namespace Toml

/-! ## Looking a name up -/

/-- Where no name is taken twice the order of the entries does not matter. -/
theorem lookup_of_perm {entries others : Entries} (same : entries.Perm others)
    (distinct : (entries.map Prod.fst).Nodup) (name : String) :
    entries.lookup name = others.lookup name := by
  induction same with
  | nil => rfl
  | cons entry same inductionHypothesis =>
      rw [List.map_cons, List.nodup_cons] at distinct
      rw [List.lookup_cons, List.lookup_cons, inductionHypothesis distinct.2]
  | swap first second entries =>
      rcases first with ⟨firstName, firstItem⟩
      rcases second with ⟨secondName, secondItem⟩
      rw [List.map_cons, List.map_cons, List.nodup_cons, List.mem_cons, not_or] at distinct
      rw [List.lookup_cons, List.lookup_cons, List.lookup_cons, List.lookup_cons]
      by_cases isFirst : name = firstName
      · have notSecond : (name == secondName) = false := by
          rw [isFirst]
          simpa using Ne.symm distinct.1.1
        rw [notSecond]
      · have notFirst : (name == firstName) = false := by simpa using isFirst
        rw [notFirst]
  | trans same later first second =>
      have permuted := (same.map Prod.fst).nodup_iff.mp distinct
      exact (first distinct).trans (second permuted)

/-! ## Looking a setting up -/

/-- The setting of a section. -/
def Entries.setting? (entries : Entries) (part name : String) : Option Item :=
  match entries.find? part with
  | some (.table _ inner) => Entries.find? inner name
  | _ => none

theorem lookup_map {α β : Type} (key : α → String) (meaning : α → β) (things : List α)
    (name : String) :
    (things.map fun thing => (key thing, meaning thing)).lookup name =
      (things.find? fun thing => key thing == name).map meaning := by
  induction things with
  | nil => rfl
  | cons thing things inductionHypothesis =>
      rw [List.map_cons, List.lookup_cons, List.find?_cons, BEq.comm (a := name)]
      cases key thing == name with
      | true => rfl
      | false => exact inductionHypothesis

theorem eq_of_name {parts : List Section} (distinct : (parts.map Section.name).Nodup)
    {part other : Section} (listed : part ∈ parts) (otherListed : other ∈ parts)
    (same : part.name = other.name) : part = other :=
  List.inj_on_of_nodup_map distinct listed otherListed same

theorem lookup_entry {parts : List Section} (distinct : (parts.map Section.name).Nodup)
    {part : Section} (listed : part ∈ parts) :
    (parts.map Section.entry).lookup part.name =
      some (.table .header (part.settings.map Setting.entry)) := by
  have found : parts.find? (fun other => other.name == part.name) = some part := by
    cases outcome : parts.find? fun other => other.name == part.name with
    | none => exact absurd (beq_self_eq_true part.name) (List.find?_eq_none.mp outcome part listed)
    | some other =>
        have same := List.find?_some outcome
        have isOther := List.mem_of_find?_eq_some outcome
        exact congrArg some (eq_of_name distinct isOther listed (eq_of_beq same))
  have looked := lookup_map Section.name
    (fun part => Item.table .header (part.settings.map Setting.entry)) parts part.name
  rw [found] at looked
  exact looked

theorem lookup_of_missing {parts : List Section} {name : String}
    (missing : name ∉ parts.map Section.name) : (parts.map Section.entry).lookup name = none := by
  have nothing : parts.find? (fun other => other.name == name) = none := by
    apply List.find?_eq_none.mpr
    intro other listed same
    exact missing (eq_of_beq same ▸ List.mem_map_of_mem listed)
  have looked := lookup_map Section.name
    (fun part => Item.table .header (part.settings.map Setting.entry)) parts name
  rw [nothing] at looked
  exact looked

/-- A setting is found among the chosen ones if it is chosen itself. -/
theorem lookup_filter (settings : List Setting) (chosen : String → Bool) (name : String) :
    ((settings.filter fun setting => chosen setting.name).map Setting.entry).lookup name =
      if chosen name then (settings.map Setting.entry).lookup name else none := by
  have narrowed : (fun setting : Setting => decide (chosen setting.name ∧ setting.name == name)) =
      fun setting => chosen name && setting.name == name := by
    funext setting
    by_cases same : setting.name = name
    · simp [same]
    · simp [same]
  unfold Setting.entry
  rw [lookup_map Setting.name fun setting => setting.value.item,
    lookup_map Setting.name fun setting => setting.value.item, List.find?_filter, narrowed]
  cases chosen name with
  | true => rfl
  | false => simp

/-! ## Choosing settings -/

/-- Sections with the chosen settings: a section may be left out if none of its settings
is chosen, and neither the order of the sections nor that of their settings matters. -/
structure Selection (sections : List Section) (chosen : String → String → Bool)
    (parts : List Section) : Prop where
  distinct : (parts.map Section.name).Nodup
  settings : ∀ part ∈ parts, ∃ whole ∈ sections, whole.name = part.name ∧
    part.settings.Perm (whole.settings.filter fun setting => chosen whole.name setting.name)
  complete : ∀ whole ∈ sections, ∀ setting ∈ whole.settings,
    chosen whole.name setting.name = true → whole.name ∈ parts.map Section.name

namespace Selection

variable {sections parts : List Section} {chosen : String → String → Bool}

/-- All settings of all sections are a selection. -/
theorem refl (distinct : (sections.map Section.name).Nodup) :
    Selection sections (fun _ _ => true) sections where
  distinct := distinct
  settings := by
    intro whole listed
    refine ⟨whole, listed, rfl, ?_⟩
    rw [List.filter_true]
  complete := by
    intro whole listed setting _ _
    exact List.mem_map_of_mem listed

theorem wellFormed (selection : Selection sections chosen parts)
    (wellFormed : ∀ whole ∈ sections, whole.WellFormed) : ∀ part ∈ parts, part.WellFormed := by
  intro part listed
  rcases selection.settings part listed with ⟨whole, isWhole, sameName, permuted⟩
  have isWellFormed := wellFormed whole isWhole
  refine ⟨sameName ▸ isWellFormed.name, ?_, ?_⟩
  · intro setting isSetting
    exact isWellFormed.settings setting (List.mem_of_mem_filter (permuted.mem_iff.mp isSetting))
  · have sublist : ((whole.settings.filter fun setting =>
        chosen whole.name setting.name).map Setting.name).Sublist
          (whole.settings.map Setting.name) := List.filter_sublist.map _
    exact (permuted.map Setting.name).nodup_iff.mpr (isWellFormed.distinct.sublist sublist)

/-- What is found in the selected sections. -/
theorem setting?_eq (selection : Selection sections chosen parts)
    (wellFormed : ∀ whole ∈ sections, whole.WellFormed)
    (distinct : (sections.map Section.name).Nodup) {whole : Section} (listed : whole ∈ sections)
    (name : String) :
    Entries.setting? (parts.map Section.entry) whole.name name =
      if chosen whole.name name then (whole.settings.map Setting.entry).lookup name else none := by
  rw [← lookup_filter]
  unfold Entries.setting? Entries.find?
  by_cases present : whole.name ∈ parts.map Section.name
  · rcases List.mem_map.mp present with ⟨part, isPart, samePart⟩
    rcases selection.settings part isPart with ⟨source, isSource, sameSource, permuted⟩
    have isWhole : source = whole :=
      eq_of_name distinct isSource listed (sameSource.trans samePart)
    subst isWhole
    have found := lookup_entry selection.distinct isPart
    rw [samePart] at found
    rw [found]
    refine lookup_of_perm (permuted.map Setting.entry) ?_ name
    rw [List.map_map]
    exact (selection.wellFormed wellFormed part isPart).distinct
  · rw [lookup_of_missing present]
    have nothing : (whole.settings.filter fun setting => chosen whole.name setting.name) = [] := by
      apply List.filter_eq_nil_iff.mpr
      intro setting isSetting isChosen
      exact present (selection.complete whole listed setting isSetting isChosen)
    rw [nothing]
    rfl

/-- Every section of the outermost table is a table. -/
theorem find?_eq (selection : Selection sections chosen parts) (name : String) :
    Entries.find? (parts.map Section.entry) name = none ∨
      ∃ inner, Entries.find? (parts.map Section.entry) name = some (.table .header inner) := by
  by_cases present : name ∈ parts.map Section.name
  · rcases List.mem_map.mp present with ⟨part, isPart, rfl⟩
    exact .inr ⟨_, lookup_entry selection.distinct isPart⟩
  · exact .inl (lookup_of_missing present)

end Selection

end Toml

end SessionHost
