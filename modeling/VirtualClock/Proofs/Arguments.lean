import VirtualClock.CommandLine.Request
import VirtualClock.Proofs.Runs

/-!
# What arguments can bring about

Reading arguments ends either with options or with one of a few stops.  Help and
completion stop a run only when an argument asks for them by name; everything else
that is wrong with the arguments is misuse.  The checks of the options then add the
version and the faults of the search for a zone.
-/

namespace VirtualClock.CommandLine

theorem OptionName.text_of_find? {written : String} {name : OptionName}
    (found : find? written = some name) : name.text = written := by
  simpa using List.find?_some found

theorem Stop.misused_eq_error_iff {Result : Type} {outcome : Except UsageProblem Result}
    {stop : Stop} :
    Stop.misused outcome = .error stop ↔
      ∃ problem, outcome = .error problem ∧ stop = .misuse problem :=
  Outcome.mapError_eq_error_iff

theorem Stop.misused_eq_ok_iff {Result : Type} {outcome : Except UsageProblem Result}
    {result : Result} : Stop.misused outcome = .ok result ↔ outcome = .ok result :=
  Outcome.mapError_eq_ok_iff

namespace Options

variable {options further : Options} {arguments rest : List String} {pages : Pages}

/-! ## Options that are only noted -/

/-- An argument without an equals sign is the name of an option as it stands. -/
theorem eq_of_splitValue {argument written : String}
    (split : splitValue argument = (written, none)) : written = argument := by
  unfold splitValue at split
  dsimp only at split
  cases after : argument.toList.drop (argument.toList.takeWhile (· != '=')).length with
  | nil =>
      rw [after] at split
      exact (congrArg Prod.fst split).symm
  | cons equals value =>
      rw [after] at split
      cases split

theorem suffix_of_takeOptions (taken : takeOptions options arguments = .ok (further, rest)) :
    rest <:+ arguments := by
  fun_induction takeOptions options arguments with
  | case1 options =>
      cases taken
      exact List.suffix_refl []
  | case2 options argument =>
      cases taken
      exact List.suffix_cons argument rest
  | case3 options argument =>
      cases taken
      exact List.suffix_refl _
  | case4 => cases taken
  | case5 options argument _ _ written name _ _ value after _ inductionHypothesis =>
      exact (inductionHypothesis taken).trans (List.suffix_cons argument after)
  | case6 options argument _ _ written name _ _ value after _ inductionHypothesis =>
      have shorter : after <:+ argument :: value :: after :=
        (List.suffix_cons value after).trans (List.suffix_cons argument _)
      exact (inductionHypothesis taken).trans shorter
  | case7 => cases taken
  | case8 => cases taken
  | case9 options argument after _ _ written name _ _ _ inductionHypothesis =>
      exact (inductionHypothesis taken).trans (List.suffix_cons argument after)

/-- What only options without a value set was set before, or an argument names such an option. -/
theorem flag_of_takeOptions (flag : Options → Prop) {names : List OptionName}
    (valueless : ∀ name ∈ names, name.takesValue = false)
    (sets : ∀ (options : Options) (name : OptionName) (value : String),
      flag (options.put name value) → flag options ∨ name ∈ names)
    (taken : takeOptions options arguments = .ok (further, rest)) (isSet : flag further) :
    flag options ∨ ∃ name ∈ names, name.text ∈ arguments := by
  have keeps : ∀ {options : Options} {name : OptionName} {value : String},
      name.takesValue = true → flag (options.put name value) → flag options := by
    intro options name value takes isPut
    rcases sets options name value isPut with before | member
    · exact before
    · rw [valueless name member] at takes
      cases takes
  -- only an option without a value can set the flag, and it is spelled out as an argument
  fun_induction takeOptions options arguments with
  | case1 options =>
      cases taken
      exact .inl isSet
  | case2 options argument =>
      cases taken
      exact .inl isSet
  | case3 options argument =>
      cases taken
      exact .inl isSet
  | case4 => cases taken
  | case5 options argument _ _ written name _ takes value after _ inductionHypothesis =>
      rcases inductionHypothesis taken with before | ⟨asked, member, named⟩
      · exact .inl (keeps takes before)
      · exact .inr ⟨asked, member, List.mem_cons_of_mem argument named⟩
  | case6 options argument _ _ written name _ takes value after _ inductionHypothesis =>
      rcases inductionHypothesis taken with before | ⟨asked, member, named⟩
      · exact .inl (keeps takes before)
      · exact .inr ⟨asked, member,
          List.mem_cons_of_mem argument (List.mem_cons_of_mem value named)⟩
  | case7 => cases taken
  | case8 => cases taken
  | case9 options argument after _ _ written name found _ split inductionHypothesis =>
      rcases inductionHypothesis taken with before | ⟨asked, member, named⟩
      · rcases sets options name "" before with earlier | member
        · exact .inl earlier
        · have spelled : name.text = argument :=
            (OptionName.text_of_find? found).trans (eq_of_splitValue split)
          exact .inr ⟨name, member, by rw [spelled]; exact List.mem_cons_self⟩
      · exact .inr ⟨asked, member, List.mem_cons_of_mem argument named⟩

theorem help_of_takeOptions (taken : takeOptions standard arguments = .ok (further, rest))
    (isSet : further.showsHelp) : OptionName.help.text ∈ arguments := by
  have sets : ∀ (options : Options) (name : OptionName) (value : String),
      (options.put name value).showsHelp → options.showsHelp ∨ name ∈ [OptionName.help] := by
    intro options name value isPut
    cases name <;> simp_all [put, askCompletion]
  rcases flag_of_takeOptions (fun options => options.showsHelp) (by decide) sets taken isSet with
    before | ⟨name, member, named⟩
  · cases before
  · rwa [List.mem_singleton.mp member] at named

theorem completion_of_takeOptions
    (taken : takeOptions standard arguments = .ok (further, rest)) {task : CompletionTask}
    {late : Bool} (isSet : further.completion = some (task, late)) :
    task.optionName.text ∈ arguments := by
  have sets : ∀ (options : Options) (name : OptionName) (value : String),
      (∃ late, (options.put name value).completion = some (task, late)) →
        (∃ late, options.completion = some (task, late)) ∨ name ∈ [task.optionName] := by
    rintro options name value ⟨late, isPut⟩
    cases name with
    | installCompletion | showCompletion =>
        cases asked : options.completion <;> cases task <;>
          simp_all [put, askCompletion, CompletionTask.optionName]
    | _ => exact .inl ⟨late, isPut⟩
  have valueless : ∀ name ∈ [task.optionName], name.takesValue = false := by
    cases task <;> decide
  rcases flag_of_takeOptions (fun options => ∃ late, options.completion = some (task, late))
    valueless sets taken ⟨late, isSet⟩ with ⟨_, before⟩ | ⟨name, member, named⟩
  · cases before
  · rwa [List.mem_singleton.mp member] at named

/-! ## Stops before the checks -/

/-- Why reading some arguments can stop. -/
inductive Declines (pages : Pages) (arguments : List String) : Stop → Prop where
  | help (asked : OptionName.help.text ∈ arguments) :
      Declines pages arguments (.showsHelp pages.help)
  | completion {task : CompletionTask} (asked : task.optionName.text ∈ arguments) :
      Declines pages arguments (.completes (pages.completion task))
  | misuse (problem : UsageProblem) : Declines pages arguments (.misuse problem)

theorem Declines.mono {stop : Stop} (declines : Declines pages rest stop)
    (within : rest ⊆ arguments) : Declines pages arguments stop := by
  cases declines with
  | help asked => exact .help (within asked)
  | completion asked => exact .completion (within asked)
  | misuse problem => exact .misuse problem

theorem declines_of_settle {stop : Stop}
    (taken : takeOptions standard arguments = .ok (options, rest))
    (settled : options.settle pages = .error stop) : Declines pages arguments stop := by
  unfold settle at settled
  by_cases help : options.showsHelp
  · rw [if_pos help] at settled
    cases settled
    exact .help (help_of_takeOptions taken help)
  rw [if_neg help] at settled
  cases asked : options.completion with
  | none =>
      rw [asked] at settled
      rcases Outcome.bind_eq_error_iff.mp settled with unread | ⟨_, _, settled⟩
      · obtain ⟨problem, _, rfl⟩ := Stop.misused_eq_error_iff.mp unread
        exact .misuse problem
      · cases settled
  | some first =>
      obtain ⟨task, late⟩ := first
      have named := completion_of_takeOptions taken asked
      rw [asked] at settled
      cases late with
      | false =>
          cases settled
          exact .completion named
      | true =>
          rcases Outcome.bind_eq_error_iff.mp settled with unread | ⟨_, _, settled⟩
          · obtain ⟨problem, _, rfl⟩ := Stop.misused_eq_error_iff.mp unread
            exact .misuse problem
          · cases settled
            exact .completion named

/-- Whatever stops the reading of arguments is asked for among them or is misuse. -/
theorem declines_of_ofArguments {stop : Stop}
    (stopped : ofArguments pages arguments = .error stop) : Declines pages arguments stop := by
  unfold ofArguments at stopped
  rcases Outcome.bind_eq_error_iff.mp stopped with unread | ⟨⟨options, rest⟩, taken, stopped⟩
  · obtain ⟨problem, _, rfl⟩ := Stop.misused_eq_error_iff.mp unread
    exact .misuse problem
  have taken := Stop.misused_eq_ok_iff.mp taken
  rcases Outcome.bind_eq_error_iff.mp stopped with unsettled | ⟨_, _, stopped⟩
  · exact declines_of_settle taken unsettled
  cases rest with
  | nil => cases stopped
  | cons command others =>
      have within := (suffix_of_takeOptions taken).subset
      rcases Outcome.bind_eq_error_iff.mp stopped with unread | ⟨⟨further, _⟩, again, stopped⟩
      · obtain ⟨problem, _, rfl⟩ := Stop.misused_eq_error_iff.mp unread
        exact .misuse problem
      have again := Stop.misused_eq_ok_iff.mp again
      rcases Outcome.bind_eq_error_iff.mp stopped with unsettled | ⟨_, _, stopped⟩
      · exact (declines_of_settle again unsettled).mono within
      · cases stopped
        exact .misuse (.unknownCommand command)

/-! ## The checks -/

/-- A chosen word is the written one with its case changed, and one of the choices. -/
theorem chosen_eq_ok_iff {choices : List String} {change : String → String}
    {problem : String → UsageProblem} {written word : Option String} :
    chosen choices change problem written = .ok word ↔
      word = written.map change ∧ ∀ choice, word = some choice → choice ∈ choices := by
  cases written with
  | none =>
      constructor
      · intro chose
        cases chose
        exact ⟨rfl, nofun⟩
      · rintro ⟨rfl, _⟩
        rfl
  | some written =>
      unfold chosen
      dsimp only
      constructor
      · intro chose
        split at chose
        · next contained =>
            cases chose
            refine ⟨rfl, ?_⟩
            rintro choice same
            cases same
            exact List.contains_iff_mem.mp contained
        · cases chose
      · rintro ⟨rfl, known⟩
        rw [if_pos (List.contains_iff_mem.mpr (known _ rfl))]
        rfl

/-- The options pass all checks and make this request. -/
structure Makes [Atlas] (options : Options) (request : Request) : Prop where
  version : options.showsVersion = false
  level : chosen levelNames Text.upper .unknownLevel options.logLevel = .ok request.level
  format : chosen formatNames Text.lower .unknownFormat options.logFormat = .ok request.format
  journey : options.journey = .ok request.journey
  checked : options.checkZone = .ok ()
  zone : request.zone = options.zone
  asJson : request.asJson = options.asJson
  envFile : request.envFile = options.envFile

theorem request_eq_ok_iff [Atlas] {request : Request} :
    options.request = .ok request ↔ options.Makes request := by
  unfold Options.request
  constructor
  · intro accepted
    by_cases version : options.showsVersion
    · rw [if_pos version] at accepted
      cases accepted
    rw [if_neg version] at accepted
    obtain ⟨level, levelled, accepted⟩ := Outcome.bind_eq_ok_iff.mp accepted
    obtain ⟨format, formatted, accepted⟩ := Outcome.bind_eq_ok_iff.mp accepted
    obtain ⟨journey, led, accepted⟩ := Outcome.bind_eq_ok_iff.mp accepted
    obtain ⟨_, checked, accepted⟩ := Outcome.bind_eq_ok_iff.mp accepted
    cases accepted
    exact {
      version := by simpa using version
      level := Stop.misused_eq_ok_iff.mp levelled
      format := Stop.misused_eq_ok_iff.mp formatted
      journey := Stop.misused_eq_ok_iff.mp led
      checked := checked
      zone := rfl
      asJson := rfl
      envFile := rfl }
  · rintro ⟨version, levelled, formatted, led, checked, sameZone, sameForm, sameFile⟩
    rw [version, levelled, formatted, led, checked, ← sameZone, ← sameForm, ← sameFile]
    rfl

/-- The search for a named zone comes last and has no part in the other checks. -/
theorem request_eq [Atlas] (options : Options) :
    options.request =
      ({ options with zone := none } : Options).request >>= fun request =>
        options.checkZone >>= fun _ => pure { request with zone := options.zone } := by
  unfold request
  by_cases version : options.showsVersion
  · rw [if_pos version, if_pos version]
    rfl
  · rw [if_neg version, if_neg version]
    have sameJourney : ({ options with zone := none } : Options).journey = options.journey := rfl
    have unnamed : ({ options with zone := none } : Options).checkZone = .ok () := rfl
    rw [sameJourney, unnamed]
    cases Stop.misused (chosen levelNames Text.upper .unknownLevel options.logLevel) with
    | error stop => rfl
    | ok level =>
        cases Stop.misused (chosen formatNames Text.lower .unknownFormat options.logFormat) with
        | error stop => rfl
        | ok format =>
            cases Stop.misused options.journey with
            | error stop => rfl
            | ok journey =>
                cases options.checkZone <;> rfl

theorem stop_of_checkZone [Atlas] {stop : Stop} (stopped : options.checkZone = .error stop) :
    (∃ problem, stop = .misuse problem) ∨ ∃ fault, stop = .fault fault := by
  unfold checkZone at stopped
  split at stopped
  · cases stopped
  · split at stopped
    · cases stopped
    · cases stopped
      exact .inl ⟨_, rfl⟩
    · cases stopped
      exact .inr ⟨_, rfl⟩

/-- Without a named zone the checks find misuse, or the version is asked for. -/
theorem stop_of_request [Atlas] {stop : Stop} (unnamed : options.zone = none)
    (stopped : options.request = .error stop) :
    stop = .showsVersion ∨ ∃ problem, stop = .misuse problem := by
  have misuse : ∀ {Result : Type} {outcome : Except UsageProblem Result},
      Stop.misused outcome = .error stop → ∃ problem, stop = .misuse problem := by
    intro Result outcome failed
    obtain ⟨problem, _, rfl⟩ := Stop.misused_eq_error_iff.mp failed
    exact ⟨problem, rfl⟩
  unfold request at stopped
  by_cases version : options.showsVersion
  · rw [if_pos version] at stopped
    cases stopped
    exact .inl rfl
  rw [if_neg version] at stopped
  rcases Outcome.bind_eq_error_iff.mp stopped with failed | ⟨_, _, stopped⟩
  · exact .inr (misuse failed)
  rcases Outcome.bind_eq_error_iff.mp stopped with failed | ⟨_, _, stopped⟩
  · exact .inr (misuse failed)
  rcases Outcome.bind_eq_error_iff.mp stopped with failed | ⟨_, _, stopped⟩
  · exact .inr (misuse failed)
  rcases Outcome.bind_eq_error_iff.mp stopped with failed | ⟨_, _, stopped⟩
  · unfold checkZone at failed
    rw [unnamed] at failed
    cases failed
  · cases stopped

end Options

/-- Arguments that make no request are declined as they are read, or else the checks stop them. -/
theorem Request.stop_of_ofArguments [Atlas] {pages : Pages} {arguments : List String} {stop : Stop}
    (stopped : ofArguments pages arguments = .error stop) :
    Options.ofArguments pages arguments = .error stop ∨ stop = .showsVersion ∨
      (∃ problem, stop = .misuse problem) ∨ ∃ fault, stop = .fault fault := by
  rcases Outcome.bind_eq_error_iff.mp stopped with declined | ⟨options, _, stopped⟩
  · exact .inl declined
  rw [Options.request_eq] at stopped
  rcases Outcome.bind_eq_error_iff.mp stopped with early | ⟨request, _, stopped⟩
  · rcases Options.stop_of_request rfl early with version | misuse
    · exact .inr (.inl version)
    · exact .inr (.inr (.inl misuse))
  rcases Outcome.bind_eq_error_iff.mp stopped with unfound | ⟨_, _, stopped⟩
  · exact .inr (.inr (Options.stop_of_checkZone unfound))
  · cases stopped

end VirtualClock.CommandLine
