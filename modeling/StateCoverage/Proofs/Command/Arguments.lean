import StateCoverage.Command.Arguments

/-!
Arguments for a request. The command line can say every request: with its options written in full,
and its paths behind `--`, where nothing is taken for an option.
-/
namespace StateCoverage.Command

namespace Flag

def longName : Flag → String
  | version => "--version"
  | verbose => "--verbose"
  | help => "--help"
  | json => "--json"
  | noImports => "--no-imports"
  | config => "--config"

theorem takeWhile_longName (flag : Flag) :
    (text flag.longName).takeWhile (· ≠ .scalar '=') = text flag.longName := by
  cases flag <;> rfl

theorem head?_longName (flag : Flag) : (text flag.longName).head? = some dash := by
  cases flag <;> rfl

theorem two_lt_length_longName (flag : Flag) : 2 < (text flag.longName).length := by
  cases flag <;> decide

/-- An option in full, and behind it its value if it takes one. -/
def spelled (option : Flag × Text) : List Text :=
  text option.1.longName :: if option.1.takesValue then [option.2] else []

end Flag

/-- These options can be written: they have one of the flags, and no value where none is taken. -/
def Spellable (flags : List (String × Flag)) (options : List (Flag × Text)) : Prop :=
  ∀ option ∈ options, flag? flags (text option.1.longName) = some option.1 ∧
    (option.1.takesValue = false → option.2 = [])

def switch (flag : Flag) (isOn : Bool) : List (Flag × Text) := if isOn then [(flag, [])] else []

section
variable {flags : List (String × Flag)} {mixed : Bool} {fuel : Nat} {found : Given}
  {rest : List Text}

theorem spellable_switch {flag : Flag} (hknown : flag? flags (text flag.longName) = some flag)
    (isOn : Bool) : Spellable flags (switch flag isOn) := by
  intro option hmem
  unfold switch at hmem
  split at hmem
  · obtain rfl := List.mem_singleton.mp hmem
    exact ⟨hknown, fun _ => rfl⟩
  · cases hmem

theorem Spellable.append {options more : List (Flag × Text)} (h : Spellable flags options)
    (hmore : Spellable flags more) : Spellable flags (options ++ more) :=
  fun option hmem => (List.mem_append.mp hmem).elim (h option) (hmore option)

theorem readOption_longName {flag : Flag} {value : Text}
    (hknown : flag? flags (text flag.longName) = some flag)
    (hplain : flag.takesValue = false → value = []) :
    readOption flags (text flag.longName)
      ((if flag.takesValue then [value] else []) ++ rest) found =
      .ok (found.add flag value, rest) := by
  unfold readOption
  simp only [flag.takeWhile_longName, flag.two_lt_length_longName, if_true, hknown,
    Nat.lt_irrefl, if_false]
  cases htakes : flag.takesValue with
  | false => rw [hplain htakes]; rfl
  | true => rfl

theorem readArguments_spelled_cons {option : Flag × Text}
    (hknown : flag? flags (text option.1.longName) = some option.1)
    (hplain : option.1.takesValue = false → option.2 = []) :
    readArguments flags mixed (fuel + 1) found (Flag.spelled option ++ rest) =
      readArguments flags mixed fuel (found.add option.1 option.2) rest := by
  have hlong := option.1.two_lt_length_longName
  have hne : text option.1.longName ≠ [dash, dash] := by
    intro h
    simp [h] at hlong
  have hone : 1 < (text option.1.longName).length := by omega
  rw [Flag.spelled, List.cons_append, readArguments, if_neg hne,
    if_pos ⟨option.1.head?_longName, hone⟩, readOption_longName hknown hplain]

theorem readArguments_spelled {options : List (Flag × Text)} (h : Spellable flags options) :
    readArguments flags mixed (fuel + options.length) found (options.flatMap Flag.spelled ++ rest) =
      readArguments flags mixed fuel { found with options := options.reverse ++ found.options }
        rest := by
  induction options generalizing found with
  | nil => rfl
  | cons option options ih =>
    obtain ⟨hoption, hrest⟩ := List.forall_mem_cons.mp h
    rw [List.flatMap_cons, List.append_assoc, List.length_cons, ← Nat.add_assoc,
      readArguments_spelled_cons hoption.1 hoption.2, ih hrest]
    simp [Given.add]

theorem exists_fuel_spelled (options : List (Flag × Text)) (last : Text) (rest : List Text) :
    ∃ fuel, (options.flatMap Flag.spelled ++ last :: rest).length + 1 =
      fuel + 1 + options.length := by
  -- an option is one argument or two
  have hlength : options.length ≤ (options.flatMap Flag.spelled).length := by
    induction options with
    | nil => exact Nat.le_refl _
    | cons option options ih =>
      simp only [List.flatMap_cons, List.length_append, List.length_cons, Flag.spelled]
      omega
  refine ⟨(options.flatMap Flag.spelled ++ last :: rest).length - options.length, ?_⟩
  rw [List.length_append]
  omega

/-- Behind `--`, every argument is taken as it is. -/
theorem given_dashes {options : List (Flag × Text)} (h : Spellable flags options) :
    given flags mixed (options.flatMap Flag.spelled ++ [dash, dash] :: rest) =
      .ok ⟨options, rest⟩ := by
  obtain ⟨fuel, hfuel⟩ := exists_fuel_spelled options [dash, dash] rest
  rw [given, hfuel, readArguments_spelled h, readArguments, if_pos rfl]
  simp

/-- Where options and other arguments are not mixed, all from the first other argument on is
kept. -/
theorem given_word {options : List (Flag × Text)} (h : Spellable flags options) {word : Text}
    (hword : word.head? ≠ some dash) :
    given flags false (options.flatMap Flag.spelled ++ word :: rest) =
      .ok ⟨options, word :: rest⟩ := by
  obtain ⟨fuel, hfuel⟩ := exists_fuel_spelled options word rest
  have hne : word ≠ [dash, dash] := by
    rintro rfl
    exact hword rfl
  rw [given, hfuel, readArguments_spelled h, readArguments, if_neg hne, if_neg fun h => hword h.1]
  simp

end

namespace Request

def commonOptions (r : Request) : List (Flag × Text) := switch .verbose r.verbose

def actionOptions (r : Request) : List (Flag × Text) :=
  switch .json r.asJson ++ switch .noImports r.noImports ++
    r.config.toList.map fun path => (.config, path)

def arguments (r : Request) : List Text :=
  r.commonOptions.flatMap Flag.spelled ++ text r.action.name ::
    (r.actionOptions.flatMap Flag.spelled ++ [dash, dash] :: r.paths)

theorem spellable_commonOptions (r : Request) : Spellable commonFlags r.commonOptions :=
  spellable_switch rfl _

theorem spellable_actionOptions (r : Request) : Spellable actionFlags r.actionOptions := by
  refine ((spellable_switch rfl _).append (spellable_switch rfl _)).append ?_
  have hknown : flag? actionFlags (text "--config") = some .config := by decide
  intro option hmem
  obtain ⟨path, -, rfl⟩ := List.mem_map.mp hmem
  exact ⟨hknown, nofun⟩

theorem find?_commonOptions (r : Request) (p : Flag × Text → Bool) (hp : p (.verbose, []) = false) :
    r.commonOptions.find? p = none := by
  unfold commonOptions switch
  split
  · simp [hp]
  · rfl

theorem wish_arguments (r : Request) : wish r.arguments = .ok (.run r) := by
  have haction : actionNamed? (text r.action.name) = some r.action := by
    cases r.action <;> rfl
  have hword : (text r.action.name).head? ≠ some dash := by
    cases r.action <;> decide
  rw [wish, arguments, given_word r.spellable_commonOptions hword]
  dsimp only
  rw [r.find?_commonOptions _ rfl]
  dsimp only
  rw [haction]
  dsimp only
  rw [actionWish, given_dashes r.spellable_actionOptions]
  dsimp only
  -- what is left to read back are the options that are there or not
  obtain ⟨action, paths, asJson, noImports, config, verbose⟩ := r
  cases asJson <;> cases noImports <;> cases config <;> cases verbose <;> rfl

end Request

end StateCoverage.Command
