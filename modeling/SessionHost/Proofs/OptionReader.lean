import Mathlib.Data.List.Nodup
import SessionHost.Program.Options
import SessionHost.Proofs.HostOptions

namespace SessionHost

/-!
# A reader of options

The reader does not always hold what the arguments so far stand for.  A value that came
as an argument of its own is kept back until something comes after it, and only then is
it looked at.  `settle` says what the reader's state stands for, and a state that can be
settled reads on as the settled one.

What was found so far matters to what follows in one way only: an option must not be
given twice.  So reading goes through with one more option in front as it goes through
without it, unless that option is found further on.  This is followed through the steps
of the reader, each of which only adds to what was found.
-/

namespace Matches

variable {found next last : Matches} {option other : OptionDeclaration} {value : Bytes}
  {awaiting : Option Awaiting}

/-! ## An option in front -/

/-- What an action makes of what was found, it makes of it as well with an option in
front that is not found afterwards; and it only adds options. -/
def Blind (action : Matches → Except UsageError Matches) : Prop :=
  ∀ found next, action found = .ok next → found.values <+: next.values ∧
    ∀ (option : OptionDeclaration) (value : Bytes), next.value? option.name = none →
      action (found.put option value) = .ok (next.put option value)

/-- An option that is not found afterwards was not found before. -/
theorem value?_of_grown (grown : found.values <+: next.values) {name : String}
    (absent : next.value? name = none) : found.value? name = none := by
  rcases grown with ⟨more, same⟩
  unfold value? at absent ⊢
  rw [← same, List.lookup_append, Option.or_eq_none_iff] at absent
  exact absent.1

theorem value?_put_of_ne (apart : other.name ≠ option.name) :
    (found.put option value).value? other.name = found.value? other.name := by
  unfold put value?
  rw [List.lookup_cons, beq_false_of_ne apart]

theorem Blind.bind {first second : Matches → Except UsageError Matches} (blind : Blind first)
    (later : Blind second) : Blind fun found => first found >>= second := by
  intro found last done
  beta_reduce at done ⊢
  cases begun : first found with
  | error fault =>
      rw [begun] at done
      cases done
  | ok next =>
      rw [begun] at done
      rcases blind found next begun with ⟨grown, front⟩
      rcases later next last done with ⟨more, behind⟩
      refine ⟨grown.trans more, fun option value absent => ?_⟩
      rw [front option value (value?_of_grown more absent)]
      exact behind option value absent

/-- An option that can be given was not given before. -/
theorem give_eq_ok (given : found.give option value = .ok next) :
    found.value? option.name = none ∧
      next = { found with values := found.values ++ [(option.name, value)] } := by
  unfold give at given
  split at given
  · cases given
  · next absent =>
      split at given
      · cases given
      · cases given
        exact ⟨by simpa using absent, rfl⟩

theorem give_blind (other : OptionDeclaration) (value : Bytes) :
    Blind fun found => found.give other value := by
  intro found next given
  rcases give_eq_ok given with ⟨free, rfl⟩
  refine ⟨List.prefix_append _ _, fun option front absent => ?_⟩
  have apart : other.name ≠ option.name := by
    intro same
    rw [← same] at absent
    simp [value?, List.lookup_append] at absent
  beta_reduce at given ⊢
  unfold give at given ⊢
  rw [value?_put_of_ne apart]
  rw [free] at given ⊢
  cases fault : other.fault? value with
  | none => rfl
  | some fault =>
      rw [fault] at given
      cases given

theorem settle_blind (awaiting : Option Awaiting) : Blind fun found => found.settle awaiting := by
  rcases awaiting with _ | ⟨option, _ | value⟩
  · intro found next settled
    cases settled
    exact ⟨List.prefix_rfl, fun _ _ _ => rfl⟩
  · intro found next settled
    cases settled
  · exact give_blind option value

theorem raise_blind (other : OptionDeclaration) : Blind fun found => found.raise other := by
  intro found next raised
  beta_reduce at raised ⊢
  unfold raise at raised ⊢
  split at raised
  · cases raised
  · next unset =>
      cases raised
      exact ⟨List.prefix_rfl, fun option value _ => if_neg unset⟩

/-- The end of the options is the same with an option in front. -/
theorem finish_put {rest : List Bytes} (done : found.finish awaiting rest = .ok (.matched last)) :
    found.values <+: last.values ∧
      ∀ (option : OptionDeclaration) (value : Bytes), last.value? option.name = none →
        (found.put option value).finish awaiting rest = .ok (.matched (last.put option value)) := by
  unfold finish at done ⊢
  cases settled : found.settle awaiting with
  | error fault =>
      rw [settled] at done
      cases done
  | ok next =>
      rw [settled] at done
      rcases settle_blind awaiting found next settled with ⟨grown, front⟩
      cases read : rest.mapM Utf8.decode? with
      | none =>
          simp only [read] at done
          cases done
      | some args =>
          simp only [read] at done
          cases done
          refine ⟨grown, fun option value absent => ?_⟩
          have behind : (found.put option value).settle awaiting = .ok (next.put option value) :=
            front option value absent
          rw [behind]
          rfl

/-! ## Values that are kept back -/

theorem finish_of_settled (settled : found.settle awaiting = .ok next) (rest : List Bytes) :
    found.finish awaiting rest = next.finish none rest := by
  unfold finish
  rw [settled]
  rfl

/-- An option that was not given before takes every value that it can take. -/
theorem give_of_takes {attached : Bool} (takes : option.Takes value attached)
    (free : found.value? option.name = none) :
    found.give option value =
      .ok { found with values := found.values ++ [(option.name, value)] } := by
  have given : value.isEmpty = false := List.isEmpty_eq_false_iff.mpr takes.given
  have faultless : option.fault? value = none := by
    rcases takes.action with ⟨shown, possible, action, listed⟩
    unfold OptionDeclaration.fault?
    rw [given, action]
    cases possible with
    | nil => rfl
    | cons first more =>
        rcases listed with none | ⟨text, listed, rfl⟩
        · cases none
        · have read : Utf8.decode? (Bytes.ofString text) = some text :=
            Utf8.decode?_eq_some_iff.mpr rfl
          have known : (first :: more).contains text = true := List.contains_iff_mem.mpr listed
          simp only [read, Option.any_some, known, Bool.false_eq_true, if_false, if_true]
  unfold give
  rw [free, faultless]
  rfl

end Matches

namespace CommandDeclaration

variable {declared : CommandDeclaration} {program : Bytes} {found next last : Matches}
  {option : OptionDeclaration} {awaiting : Option Awaiting}

/-! ## Single arguments -/

/-- Options can be told apart by their names, and a name ends where its value begins. -/
structure WellFormed (declared : CommandDeclaration) : Prop where
  distinct : (declared.options.map (·.name)).Nodup
  named : ∀ option ∈ declared.options, Bytes.ofString option.name ≠ []
  plain : ∀ option ∈ declared.options, equalsSign ∉ Bytes.ofString option.name

theorem named_of_mem (wellFormed : declared.WellFormed) (listed : option ∈ declared.options)
    (attached : Option Bytes) : declared.named option.name attached = .option option attached := by
  have found : (declared.options.find? (·.name = option.name)).isSome = true :=
    List.find?_isSome.mpr ⟨option, listed, by simp⟩
  rcases Option.isSome_iff_exists.mp found with ⟨other, search⟩
  have same : other.name = option.name := by simpa using List.find?_some search
  have isOption : other = option :=
    List.inj_on_of_nodup_map wellFormed.distinct (List.mem_of_find?_eq_some search) listed same
  unfold named
  rw [search, isOption]

/-- An option is known by its name, and a value may be attached to it. -/
theorem classify_flag (wellFormed : declared.WellFormed) (listed : option ∈ declared.options)
    {tail : Bytes} (ends : tail = [] ∨ tail.head? = some equalsSign) :
    declared.classify (option.flag ++ tail) = .option option tail.tail? := by
  have plain : ∀ byte ∈ Bytes.ofString option.name, (byte != equalsSign) = true := by
    intro byte inside
    exact bne_iff_ne.mpr fun same => wellFormed.plain option listed (same ▸ inside)
  have name : (Bytes.ofString option.name ++ tail).takeWhile (· != equalsSign) =
      Bytes.ofString option.name := by
    rw [List.takeWhile_append_of_pos plain]
    rcases ends with rfl | equals
    · simp
    · cases tail with
      | nil => simp
      | cons byte tail =>
          rw [Option.some.inj equals]
          simp
  have more : (Bytes.ofString option.name ++ tail).isEmpty = false := by
    simp [wellFormed.named option listed]
  have read : Utf8.decode? (Bytes.ofString option.name) = some option.name :=
    Utf8.decode?_eq_some_iff.mpr rfl
  unfold OptionDeclaration.flag
  simp only [List.cons_append, classify, Bool.and_self, decide_true, if_true, more, name, read,
    Bool.false_eq_true, if_false, List.drop_left, named_of_mem wellFormed listed]

/-- Only what begins with two hyphens can be an option. -/
theorem classify_of_apart {arg : Bytes} (apart : ¬ [hyphen, hyphen] <+: arg) :
    declared.classify arg = .word := by
  unfold classify
  split
  · next first second rest =>
      rw [if_neg]
      intro both
      simp only [Bool.and_eq_true, decide_eq_true_eq] at both
      exact apart ⟨rest, by rw [both.1, both.2]; rfl⟩
  · rfl

/-! ## Reading on -/

/-- A state that can be settled goes on as the settled one. -/
theorem advance_of_settled (settled : found.settle awaiting = .ok next) (arg : Bytes) :
    declared.advance found awaiting arg = declared.advance next none arg := by
  unfold advance
  rw [settled]
  cases declared.classify arg with
  | separator => rfl
  | unreadable name => rfl
  | option which attached => rfl
  | word =>
      rcases awaiting with _ | ⟨option, _ | value⟩
      · rfl
      · -- an option that still waits for its value cannot be settled
        cases settled
      · rfl

theorem readFrom_of_settled (settled : found.settle awaiting = .ok next) (args : List Bytes) :
    declared.readFrom program found awaiting args = declared.readFrom program next none args := by
  cases args with
  | nil => exact Matches.finish_of_settled settled []
  | cons arg rest =>
      have finished := Matches.finish_of_settled settled
      rw [readFrom, readFrom, advance_of_settled settled, finished, finished]

/-- What an option does, it does as well with another one in front. -/
theorem act_put {which : OptionDeclaration} {attached : Option Bytes} {waiting : Option Awaiting}
    (acted : act found which attached = .ok (.onward next waiting)) :
    found.values <+: next.values ∧
      ∀ (option : OptionDeclaration) (value : Bytes), next.value? option.name = none →
        act (found.put option value) which attached =
          .ok (.onward (next.put option value) waiting) := by
  have through {change : Matches → Except UsageError Matches} (blind : Matches.Blind change)
      (acted : (change found).map (Advance.onward · none) = .ok (.onward next waiting)) :
      found.values <+: next.values ∧
        ∀ (option : OptionDeclaration) (value : Bytes), next.value? option.name = none →
          (change (found.put option value)).map (Advance.onward · none) =
            .ok (.onward (next.put option value) waiting) := by
    cases done : change found with
    | error fault =>
        rw [done] at acted
        cases acted
    | ok reached =>
        rw [done] at acted
        cases acted
        rcases blind found next done with ⟨grown, front⟩
        refine ⟨grown, fun option value absent => ?_⟩
        rw [front option value absent]
        rfl
  unfold act at acted ⊢
  cases action : which.action with
  | value shown possible =>
      rw [action] at acted
      cases attached with
      | some value => exact through (Matches.give_blind which value) acted
      | none =>
          cases acted
          exact ⟨List.prefix_rfl, fun _ _ _ => rfl⟩
  | flag =>
      rw [action] at acted
      exact through (Matches.raise_blind which) acted
  | help =>
      rw [action] at acted
      cases acted
  | version =>
      rw [action] at acted
      cases acted

/-- A step that leads on does so as well with an option in front. -/
theorem advance_put {arg : Bytes} {waiting : Option Awaiting}
    (led : declared.advance found awaiting arg = .ok (.onward next waiting)) :
    found.values <+: next.values ∧
      ∀ (option : OptionDeclaration) (value : Bytes), next.value? option.name = none →
        declared.advance (found.put option value) awaiting arg =
          .ok (.onward (next.put option value) waiting) := by
  unfold advance at led ⊢
  cases classified : declared.classify arg with
  | separator =>
      rw [classified] at led
      cases led
  | unreadable name =>
      rw [classified] at led
      cases led
  | word =>
      rw [classified] at led
      rcases awaiting with _ | ⟨option, _ | value⟩
      · cases led
      · cases led
        exact ⟨List.prefix_rfl, fun _ _ _ => rfl⟩
      · cases led
  | option which attached =>
      rw [classified] at led
      dsimp only at led ⊢
      cases surplus : which.surplus? attached with
      | some fault =>
          rw [surplus] at led
          cases led
      | none =>
          rw [surplus] at led
          cases settled : found.settle awaiting with
          | error fault =>
              rw [settled] at led
              cases led
          | ok reached =>
              rw [settled] at led
              rcases Matches.settle_blind awaiting found reached settled with ⟨grown, front⟩
              rcases act_put led with ⟨more, acted⟩
              refine ⟨grown.trans more, fun option value absent => ?_⟩
              have behind : (found.put option value).settle awaiting =
                  .ok (reached.put option value) :=
                front option value (Matches.value?_of_grown more absent)
              rw [behind]
              exact acted option value absent

theorem act_ne_ends {which : OptionDeclaration} {attached : Option Bytes} {included : Bool} :
    act found which attached ≠ .ok (.ends included) := by
  have never {change : Except UsageError Matches} :
      change.map (Advance.onward · none) ≠ .ok (.ends included) := by
    cases change <;> exact nofun
  unfold act
  cases which.action with
  | value shown possible =>
      cases attached with
      | some value => exact never
      | none => exact nofun
  | flag => exact never
  | help => exact nofun
  | version => exact nofun

/-- The options end where they do, whatever was found before. -/
theorem advance_ends {arg : Bytes} {included : Bool}
    (ended : declared.advance found awaiting arg = .ok (.ends included))
    (other : Matches) :
    declared.advance other awaiting arg = .ok (.ends included) := by
  unfold advance at ended ⊢
  cases classified : declared.classify arg with
  | separator =>
      rw [classified] at ended
      exact ended
  | unreadable name =>
      rw [classified] at ended
      cases ended
  | word =>
      rw [classified] at ended
      rcases awaiting with _ | ⟨option, _ | value⟩
      · exact ended
      · cases ended
      · exact ended
  | option which attached =>
      rw [classified] at ended
      dsimp only at ended
      cases surplus : which.surplus? attached with
      | some fault =>
          rw [surplus] at ended
          cases ended
      | none =>
          rw [surplus] at ended
          cases settled : found.settle awaiting with
          | error fault =>
              rw [settled] at ended
              cases ended
          | ok reached =>
              rw [settled] at ended
              exact absurd ended act_ne_ends

/-- Options and arguments are read with an option in front as they are without it.  The
induction is on the arguments that are left. -/
theorem readFrom_put {args : List Bytes}
    (read : declared.readFrom program found awaiting args = .ok (.matched last)) :
    found.values <+: last.values ∧
      ∀ (option : OptionDeclaration) (value : Bytes), last.value? option.name = none →
        declared.readFrom program (found.put option value) awaiting args =
          .ok (.matched (last.put option value)) := by
  induction args generalizing found awaiting with
  | nil => exact Matches.finish_put read
  | cons arg rest inductionHypothesis =>
      rw [readFrom] at read
      cases led : declared.advance found awaiting arg with
      | error fault =>
          rw [led] at read
          cases read
      | ok advance =>
          rw [led] at read
          cases advance with
          | onward next waiting =>
              rcases advance_put led with ⟨grown, front⟩
              rcases inductionHypothesis read with ⟨more, behind⟩
              refine ⟨grown.trans more, fun option value absent => ?_⟩
              rw [readFrom, front option value (Matches.value?_of_grown more absent)]
              exact behind option value absent
          | ends included =>
              have finished {left : List Bytes}
                  (done : found.finish awaiting left = .ok (.matched last)) :=
                Matches.finish_put done
              cases included with
              | true =>
                  refine ⟨(finished read).1, fun option value absent => ?_⟩
                  rw [readFrom, advance_ends led]
                  exact (finished read).2 option value absent
              | false =>
                  refine ⟨(finished read).1, fun option value absent => ?_⟩
                  rw [readFrom, advance_ends led]
                  exact (finished read).2 option value absent
          | help => cases read
          | version => cases read

/-! ## The laws -/

/-- An option that can take its value is settled with it, and the rest is read from there. -/
theorem readFrom_given (wellFormed : declared.WellFormed) (listed : option ∈ declared.options)
    {value : Bytes} {attached : Bool} (takes : option.Takes value attached) (rest : List Bytes) :
    declared.readFrom program {} none (option.given value attached ++ rest) =
      declared.readFrom program (Matches.put {} option value) none rest := by
  have given : Matches.give {} option value = .ok (Matches.put {} option value) :=
    Matches.give_of_takes takes rfl
  have expected (tail : Option Bytes) : option.surplus? tail = none := by
    rcases takes.action with ⟨shown, possible, action, _⟩
    unfold OptionDeclaration.surplus?
    rw [action]
  cases attached with
  | true =>
      have flag : declared.classify (option.flag ++ equalsSign :: value) =
          .option option (some value) := classify_flag wellFormed listed (.inr rfl)
      have led : declared.advance {} none (option.flag ++ equalsSign :: value) =
          .ok (.onward (Matches.put {} option value) none) := by
        rcases takes.action with ⟨shown, possible, action, _⟩
        unfold advance
        rw [flag]
        dsimp only
        rw [expected]
        simp only [Matches.settle, bind, Except.bind, act, action, given, Except.map]
      rw [OptionDeclaration.given, if_pos rfl, List.singleton_append, readFrom, led]
      rfl
  | false =>
      -- the value is kept back, but it is already what will be given
      have flag : declared.classify option.flag = .option option none := by
        rw [← List.append_nil option.flag]
        exact classify_flag wellFormed listed (.inl rfl)
      have word : declared.classify value = .word := by
        apply classify_of_apart
        rintro ⟨more, same⟩
        exact takes.apart rfl (by rw [← same]; rfl)
      have led : declared.advance {} none option.flag =
          .ok (.onward {} (some { option })) := by
        rcases takes.action with ⟨shown, possible, action, _⟩
        unfold advance
        rw [flag]
        dsimp only
        rw [expected]
        simp only [Matches.settle, bind, Except.bind, act, action]
      have kept : declared.advance {} (some { option }) value =
          .ok (.onward {} (some ⟨option, some value⟩)) := by
        unfold advance
        rw [word]
      have apart : option.given value false ++ rest = option.flag :: value :: rest := rfl
      have settled : Matches.settle {} (some ⟨option, some value⟩) =
          .ok (Matches.put {} option value) := given
      rw [apart, readFrom, led, ← readFrom_of_settled settled]
      simp only [bind, Except.bind]
      rw [readFrom, kept]
      rfl

theorem parse_eq_ok {args : List Bytes} {finding : Finding} :
    ArgumentParser.ofOptions.parse declared program args = .ok finding ↔
      declared.readFrom program {} none args = .ok finding := by
  unfold ArgumentParser.ofOptions
  dsimp only
  cases declared.readFrom program {} none args with
  | ok found => exact ⟨fun same => congrArg Except.ok (Except.ok.inj same),
      fun same => congrArg Except.ok (Except.ok.inj same)⟩
  | error fault => exact iff_of_false nofun nofun

theorem mapM_decode?_ofString (args : List String) :
    (args.map Bytes.ofString).mapM Utf8.decode? = some args := by
  induction args with
  | nil => rfl
  | cons arg rest inductionHypothesis =>
      have first : Utf8.decode? (Bytes.ofString arg) = some arg :=
        Utf8.decode?_eq_some_iff.mpr rfl
      simp [List.mapM_cons, first, inductionHypothesis]

theorem finish_args (args : List String) :
    Matches.finish {} none (args.map Bytes.ofString) = .ok (.matched { args }) := by
  unfold Matches.finish
  rw [mapM_decode?_ofString]
  rfl

/-- An argument that ends the options is the first of those behind them. -/
theorem readFrom_of_ends {first : String} {rest : List String}
    (ended : declared.advance {} none (Bytes.ofString first) = .ok (.ends true)) :
    declared.readFrom program {} none ((first :: rest).map Bytes.ofString) =
      .ok (.matched { args := first :: rest }) := by
  rw [← finish_args, List.map_cons, readFrom, ended]
  rfl

/-- Where nothing is left there are no arguments. -/
theorem args_of_finish (done : found.finish awaiting [] = .ok (.matched last)) :
    last.args = [] := by
  unfold Matches.finish at done
  cases settled : found.settle awaiting with
  | error fault =>
      rw [settled] at done
      cases done
  | ok next =>
      rw [settled] at done
      cases done
      rfl

/-- What alone is an argument ends the options. -/
theorem ends_of_readFrom {first : String}
    (read : declared.readFrom program {} none [Bytes.ofString first] =
      .ok (.matched { args := [first] })) :
    declared.advance {} none (Bytes.ofString first) = .ok (.ends true) := by
  rw [readFrom] at read
  cases led : declared.advance {} none (Bytes.ofString first) with
  | error fault =>
      rw [led] at read
      cases read
  | ok advance =>
      rw [led] at read
      cases advance with
      | onward next waiting =>
          have none := args_of_finish read
          cases none
      | ends included =>
          cases included with
          | true => rfl
          | false => cases read
      | help => cases read
      | version => cases read

/-- The reader follows every declaration whose options can be told apart. -/
theorem ofOptions_honours (wellFormed : declared.WellFormed) :
    ArgumentParser.ofOptions.Honours declared where
  nothing := fun program => rfl
  value_taken := by
    intro program option value attached rest found listed takes read free
    rw [parse_eq_ok] at read ⊢
    rw [readFrom_given wellFormed listed takes]
    exact (readFrom_put read).2 option value free
  allow_hyphen_values := by
    intro _ program arg apart
    rw [parse_eq_ok]
    have ended : declared.advance {} none (Bytes.ofString arg) = .ok (.ends true) := by
      unfold advance
      rw [classify_of_apart apart]
    have read : declared.readFrom program {} none ([arg].map Bytes.ofString) =
        .ok (.matched { args := [arg] }) := readFrom_of_ends ended
    exact read
  trailing_var_arg := by
    intro _ program first rest alone
    rw [parse_eq_ok] at alone ⊢
    exact readFrom_of_ends (ends_of_readFrom alone)

end CommandDeclaration

theorem CommandLine.declaration_wellFormed : declaration.WellFormed where
  distinct := by decide
  named := by decide
  plain := by decide

end SessionHost
