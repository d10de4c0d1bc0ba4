import VirtualClock.Proofs.JsonTexts
import VirtualClock.Proofs.RepeatedRuns

/-!
# What is printed of the views

A run prints its views as lines or as a JSON object, and the same names and texts are
read off either form.  The timestamp and the date-time are one text, and the date is how
it begins.  A run that is stopped has printed none of it.
-/

namespace VirtualClock

/-! ## Reading a print -/

/-- The name at the front of a line, and the text after the colon and the blanks behind it. -/
def fieldOfLine (line : List Char) : Option (String × String) :=
  match line.dropWhile (· != ':') with
  | [] => none
  | _ :: behind =>
    some (String.ofList (line.takeWhile (· != ':')), String.ofList (behind.dropWhile (· == ' ')))

/-- The fields of a text, one on each line; after the last line end there is no line any more. -/
def fieldsOfLines (text : String) : Option (List (String × String)) :=
  (text.toList.splitOn '\n').dropLast.mapM fieldOfLine

def fieldsOfJson (text : String) : Option (List (String × String)) :=
  match Json.parse text with
  | some (.object fields) =>
    fields.mapM fun field =>
      match field.2 with
      | .text content => some (field.1, content)
      | _ => none
  | _ => none

/-- The fields of an output in the form that was asked for. -/
def fieldsOfOutput (asJson : Bool) (output : String) : Option (List (String × String)) :=
  if asJson then fieldsOfJson output else fieldsOfLines output

theorem mapM_of_read {read : String × String → Option (String × String)}
    {fields : List (String × String)} (back : ∀ field ∈ fields, read field = some field) :
    fields.mapM read = some fields := by
  induction fields with
  | nil => rfl
  | cons first rest inductionHypothesis =>
      have later := inductionHypothesis fun field member => back field (List.mem_cons_of_mem _ member)
      simp [List.mapM_cons, back first List.mem_cons_self, later]

/-! ## Lines -/

theorem splitOn_lines {lines : List (List Char)} (whole : ∀ line ∈ lines, '\n' ∉ line) :
    (lines.flatMap fun line => line ++ ['\n']).splitOn '\n' = lines ++ [[]] := by
  induction lines with
  | nil => rfl
  | cons first rest inductionHypothesis =>
      have unbroken : ∀ character ∈ first, (character == '\n') = false := by
        intro character written
        rw [beq_eq_false_iff_ne]
        rintro rfl
        exact whole first List.mem_cons_self written
      have later := inductionHypothesis fun line written => whole line (List.mem_cons_of_mem _ written)
      rw [List.flatMap_cons, List.append_assoc, List.singleton_append]
      unfold List.splitOn at later ⊢
      rw [List.splitOnP_append_cons_of_forall_mem unbroken _ rfl, later]
      rfl

/-- The text stands on a line behind a name: it has no line end and begins with no blank. -/
def StandsOnLine (text : String) : Prop := '\n' ∉ text.toList ∧ text.toList.head? ≠ some ' '

namespace Views

/-- The line of a field, without its end. -/
def lineChars (field : String × String) : List Char :=
  field.1.toList ++ ':' :: (List.replicate (nameWidth - (field.1.length + 1)) ' ' ++
    ' ' :: field.2.toList)

theorem text_toList (views : Views) :
    views.text.toList = (views.fields.map lineChars).flatMap fun line => line ++ ['\n'] := by
  have colon : ":".length = 1 := rfl
  simp [text, lineChars, String.toList_join, List.flatMap_map, colon]

theorem fieldOfLine_lineChars {field : String × String} (named : ':' ∉ field.1.toList)
    (stands : StandsOnLine field.2) : fieldOfLine (lineChars field) = some field := by
  have plain : ∀ character ∈ field.1.toList, (character != ':') = true := by
    intro character written
    rw [bne_iff_ne]
    rintro rfl
    exact named written
  have blanks : ∀ width, ∀ character ∈ List.replicate width ' ', (character == ' ') = true := by
    intro width character written
    rw [(List.mem_replicate.mp written).2]
    rfl
  have stops : field.2.toList.dropWhile (· == ' ') = field.2.toList := by
    cases written : field.2.toList with
    | nil => rfl
    | cons first rest =>
        have visible : (first == ' ') = false := by
          rw [beq_eq_false_iff_ne]
          rintro rfl
          exact stands.2 (by rw [written]; rfl)
        rw [List.dropWhile_cons, visible]
        rfl
  -- the padding and the blank before the text are dropped, and nothing of the text itself
  unfold fieldOfLine lineChars
  rw [List.dropWhile_append_of_pos plain, List.takeWhile_append_of_pos plain]
  simp [List.dropWhile_append_of_pos (blanks _), stops]

theorem fieldsOfLines_text {views : Views} (stand : ∀ field ∈ views.fields, StandsOnLine field.2) :
    fieldsOfLines views.text = some views.fields := by
  have names : ∀ field ∈ views.fields, ':' ∉ field.1.toList ∧ '\n' ∉ field.1.toList := by
    simp [fields]
  have whole : ∀ line ∈ views.fields.map lineChars, '\n' ∉ line := by
    intro line written
    obtain ⟨field, member, rfl⟩ := List.mem_map.mp written
    have name := (names field member).2
    have behind := (stand field member).1
    simp [lineChars, name, behind]
  have read : ∀ field ∈ views.fields, (fieldOfLine ∘ lineChars) field = some field := by
    intro field member
    exact fieldOfLine_lineChars (names field member).1 (stand field member)
  unfold fieldsOfLines
  rw [text_toList, splitOn_lines whole, List.dropLast_concat, List.mapM_map]
  exact mapM_of_read read

theorem fieldsOfJson_jsonText (views : Views) :
    fieldsOfJson views.jsonText = some views.fields := by
  have members : ∀ member ∈ views.fields.map fun field => (field.1, Json.text field.2),
      Json.ReadsBack member.2 := by
    intro member written
    obtain ⟨field, _, rfl⟩ := List.mem_map.mp written
    exact Json.readsBack_text field.2
  have distinct : ((views.fields.map fun field => (field.1, Json.text field.2)).map
      Prod.fst).Nodup := by
    simp [fields]
  have parsed := (Json.readsBack_object members distinct).parse_line
  unfold fieldsOfJson jsonText
  rw [parsed]
  dsimp only
  rw [List.mapM_map]
  apply mapM_of_read
  intro field _
  rfl

end Views

/-! ## Printed moments -/

section IsoTexts

open IsoForm

theorem lineEnd_not_mem_fixedDigits (width number : Nat) :
    '\n' ∉ Text.fixedDigits width number := by
  intro written
  have digit := Text.isDigit_of_mem_fixedDigits written
  cases digit

theorem lineEnd_not_mem_dateDigits (date : CivilDate) : '\n' ∉ dateDigits date := by
  simp [dateDigits, lineEnd_not_mem_fixedDigits]

theorem lineEnd_not_mem_offsetText (offset : Int) : '\n' ∉ (offsetText offset).toList := by
  have optional : ∀ (absent : Prop) [Decidable absent] (text : String), '\n' ∉ text.toList →
      '\n' ∉ (if absent then "" else text).toList := by
    intro absent _ text unbroken
    split
    · exact List.not_mem_nil
    · exact unbroken
  have sign : '\n' ∉ (if offset < 0 then "-" else "+").toList := by
    split <;> decide
  have digits := fun width number => lineEnd_not_mem_fixedDigits width number
  unfold offsetText
  simp only [String.toList_append, List.mem_append, not_or]
  refine ⟨⟨⟨⟨⟨sign, ?_⟩, by decide⟩, ?_⟩, optional _ _ ?_⟩, optional _ _ ?_⟩
  · simp [digits]
  · simp [digits]
  · simp [digits]
  · simp [digits]

theorem dateDigits_head (date : CivilDate) (behind : List Char) :
    (dateDigits date ++ behind).head? ≠ some ' ' := by
  have visible : ∀ value < 10, some (Text.decimalDigit value) ≠ some ' ' := by
    decide
  exact visible (date.year / 10 / 10 / 10 % 10) (Nat.mod_lt _ (by decide))

theorem CivilDate.standsOnLine (date : CivilDate) : StandsOnLine date.isoText := by
  unfold StandsOnLine
  rw [IsoForm.isoText_toList]
  refine ⟨lineEnd_not_mem_dateDigits date, ?_⟩
  have head := dateDigits_head date []
  rwa [List.append_nil] at head

theorem Moment.exists_isoText_toList (moment : Moment) :
    ∃ behind, moment.isoText.toList = dateDigits moment.wall.date ++ behind ∧ '\n' ∉ behind := by
  have clock : '\n' ∉ moment.wall.clockDigits := by
    simp [WallTime.clockDigits, lineEnd_not_mem_fixedDigits]
  have fraction : '\n' ∉ moment.wall.fractionDigits := by
    unfold WallTime.fractionDigits
    split
    · exact List.not_mem_nil
    · simp [lineEnd_not_mem_fixedDigits]
  obtain ⟨zone, written, unbroken⟩ : ∃ zone, moment.isoText = moment.wall.isoText 'T' ++ zone ∧
      '\n' ∉ zone.toList := by
    unfold isoText textWith
    cases moment.offset? with
    | none => exact ⟨_, rfl, List.not_mem_nil⟩
    | some offset => exact ⟨_, rfl, lineEnd_not_mem_offsetText offset⟩
  refine ⟨'T' :: (moment.wall.clockDigits ++ moment.wall.fractionDigits) ++ zone.toList, ?_, ?_⟩
  · rw [written, String.toList_append, moment.wall.isoText_toList]
    simp [WallTime.isoDigits]
  · simp [clock, fraction, unbroken]

theorem Moment.standsOnLine (moment : Moment) : StandsOnLine moment.isoText := by
  obtain ⟨behind, written, unbroken⟩ := moment.exists_isoText_toList
  unfold StandsOnLine
  rw [written]
  exact ⟨List.not_mem_append (lineEnd_not_mem_dateDigits _) unbroken, dateDigits_head _ behind⟩

/-- The date of a moment is written in the first ten characters of its text. -/
theorem Moment.take_isoText (moment : Moment) :
    String.ofList (moment.isoText.toList.take 10) = moment.wall.date.isoText := by
  obtain ⟨behind, written, _⟩ := moment.exists_isoText_toList
  rw [written, List.take_left' (length_dateDigits _), ← IsoForm.isoText_toList,
    String.ofList_toList]

end IsoTexts

/-! ## The views of one moment -/

/-- The fields of coherent views: the timestamp twice, and between them how it begins. -/
def coherentFields (timestamp : String) : List (String × String) :=
  [("timestamp", timestamp), ("date", String.ofList (timestamp.toList.take 10)),
    ("datetime", timestamp)]

namespace Views

theorem isoText_shape (kind : MomentKind) (shown : Moment) :
    (kind.shape shown).isoText = shown.isoText := by
  simp [Moment.isoText, Moment.textWith]

theorem fields_ofShown (shown : Moment) :
    (ofShown shown).fields = coherentFields (ofShown shown).timestamp := by
  simp only [ofShown, fields, coherentFields, isoText_shape, shown.take_isoText]

theorem standsOnLine_ofShown (shown : Moment) :
    ∀ field ∈ (ofShown shown).fields, StandsOnLine field.2 := by
  have moments := shown.standsOnLine
  have date := shown.wall.date.standsOnLine
  simp [fields, ofShown, isoText_shape, moments, date]

end Views

namespace CommandLine

variable {surroundings : Surroundings} {arguments : List String}

theorem Options.fieldsOfOutput_printed (options : Options) (shown : Moment) :
    fieldsOfOutput options.asJson (options.printed (Views.ofShown shown)) =
      some (coherentFields (Views.ofShown shown).timestamp) := by
  rw [← Views.fields_ofShown]
  unfold fieldsOfOutput Options.printed
  by_cases asJson : options.asJson
  · rw [if_pos asJson, if_pos asJson]
    exact (Views.ofShown shown).fieldsOfJson_jsonText
  · rw [if_neg asJson, if_neg asJson]
    exact Views.fieldsOfLines_text (Views.standsOnLine_ofShown shown)

/-! ## Runs that differ in the form of their output -/

/-- The options with another choice between lines and JSON. -/
def Options.withForm (options : Options) (asJson : Bool) : Options := { options with asJson }

def Request.withForm (request : Request) (asJson : Bool) : Request := { request with asJson }

namespace Options

/-- The form of the output has no part in the checks. -/
theorem request_withForm [Atlas] (options : Options) (asJson : Bool) :
    (options.withForm asJson).request =
      options.request.map fun request => request.withForm asJson := by
  change _ = (fun request : Request => request.withForm asJson) <$> options.request
  have sameVersion : (options.withForm asJson).showsVersion = options.showsVersion := rfl
  unfold request
  rw [sameVersion]
  by_cases version : options.showsVersion
  · rw [if_pos version, if_pos version]
    rfl
  · rw [if_neg version, if_neg version]
    simp only [map_bind, map_pure]
    rfl

theorem takeOptions_withForm (options : Options) (arguments : List String) :
    takeOptions (options.withForm true) arguments =
      (takeOptions options arguments).map fun taken => (taken.1.withForm true, taken.2) := by
  have put : ∀ (options : Options) (name : OptionName) (value : String),
      (options.withForm true).put name value = (options.put name value).withForm true := by
    intro options name value
    cases name <;> rfl
  -- the reading goes the same way, so the cases are those of the options without the form
  fun_induction takeOptions options arguments with
  | case1 options =>
      rw [takeOptions]
      rfl
  | case2 options argument rest ends =>
      rw [takeOptions, if_pos ends]
      rfl
  | case3 options argument rest goesOn ends =>
      rw [takeOptions, if_neg goesOn, if_pos ends]
      rfl
  | case4 options argument rest goesOn isOption written attached split unknown =>
      rw [takeOptions, if_neg goesOn, if_neg isOption, split]
      simp only [unknown]
      rfl
  | case5 options argument goesOn isOption written name found takes value after split
      inductionHypothesis =>
      rw [takeOptions, if_neg goesOn, if_neg isOption, split]
      simp only [found, if_pos takes, put]
      exact inductionHypothesis
  | case6 options argument goesOn isOption written name found takes value after split
      inductionHypothesis =>
      rw [takeOptions, if_neg goesOn, if_neg isOption, split]
      simp only [found, if_pos takes, put]
      exact inductionHypothesis
  | case7 options argument goesOn isOption written name found takes split =>
      rw [takeOptions, if_neg goesOn, if_neg isOption, split]
      simp only [found, if_pos takes]
      rfl
  | case8 options argument rest goesOn isOption written name found takes value split =>
      rw [takeOptions, if_neg goesOn, if_neg isOption, split]
      simp only [found, if_neg takes]
      rfl
  | case9 options argument after goesOn isOption written name found takes split
      inductionHypothesis =>
      rw [takeOptions, if_neg goesOn, if_neg isOption, split]
      simp only [found, if_neg takes, put]
      exact inductionHypothesis

theorem ofArguments_json (pages : Pages) (arguments : List String) :
    ofArguments pages (OptionName.json.text :: arguments) =
      (ofArguments pages arguments).map fun options => options.withForm true := by
  have taken : takeOptions standard (OptionName.json.text :: arguments) =
      (takeOptions standard arguments).map fun taken => (taken.1.withForm true, taken.2) := by
    rw [takeOptions_flag standard rfl]
    exact takeOptions_withForm standard arguments
  unfold ofArguments
  rw [taken]
  cases takeOptions standard arguments with
  | error problem => rfl
  | ok given =>
      obtain ⟨options, rest⟩ := given
      have sameEnd : (options.withForm true).settle pages = options.settle pages := rfl
      change ((options.withForm true).settle pages >>= _) = Except.map _ (options.settle pages >>= _)
      rw [sameEnd]
      cases options.settle pages with
      | error stop => rfl
      | ok settled =>
          cases rest with
          | nil => rfl
          | cons command others =>
              -- whatever the arguments left over are, such a run is stopped
              change (Stop.misused (takeOptions standard (command :: others)) >>= _) =
                Except.map _ (Stop.misused (takeOptions standard (command :: others)) >>= _)
              cases takeOptions standard (command :: others) with
              | error problem => rfl
              | ok further =>
                  change (further.1.settle pages >>= _) =
                    Except.map _ (further.1.settle pages >>= _)
                  cases further.1.settle pages <;> rfl

end Options

/-! ## Runs that print views -/

section

variable [Atlas]

/-- The views that a request leads to, in whatever form they are to be printed. -/
def viewsFor (surroundings : Surroundings) (request : Request) : Except Stop Views := do
  let file ← variablesFor surroundings request
  let settings ← settingsFor surroundings request file
  (openLog surroundings settings.logging).mapError .fault
  (travelFor request.journey settings (openingWorld surroundings)).1.mapError request.journey.stop

theorem exists_shown_of_viewsFor {request : Request} {views : Views}
    (viewed : viewsFor surroundings request = .ok views) : ∃ shown, views = Views.ofShown shown := by
  obtain ⟨file, _, viewed⟩ := Outcome.bind_eq_ok_iff.mp viewed
  obtain ⟨settings, _, viewed⟩ := Outcome.bind_eq_ok_iff.mp viewed
  obtain ⟨_, _, viewed⟩ := Outcome.bind_eq_ok_iff.mp viewed
  have travelled := Outcome.mapError_eq_ok_iff.mp viewed
  rw [travelFor_outcome] at travelled
  obtain ⟨zone, _, seen⟩ := Outcome.bind_eq_ok_iff.mp travelled
  exact exists_shown_of_viewsOn rfl seen

theorem travelOutcome_eq (surroundings : Surroundings) (request : Request) (settings : Settings) :
    travelOutcome surroundings request settings =
      request.printed <$> (travelFor request.journey settings (openingWorld surroundings)).1.mapError
        request.journey.stop := by
  unfold travelOutcome
  cases (travelFor request.journey settings (openingWorld surroundings)).1 <;> rfl

theorem run_outcome_eq (surroundings : Surroundings) (arguments : List String) :
    (run surroundings arguments).outcome =
      (Request.ofArguments surroundings.pages arguments >>= fun request =>
        request.printed <$> viewsFor surroundings request) := by
  simp only [run_outcome, viewsFor, map_bind, travelOutcome_eq]

theorem run_outcome_eq_ok_iff {output : String} :
    (run surroundings arguments).outcome = .ok output ↔
      ∃ options request views, Options.ofArguments surroundings.pages arguments = .ok options ∧
        options.request = .ok request ∧ viewsFor surroundings request = .ok views ∧
        output = options.printed views := by
  have sameForm : ∀ {options : Options} {request : Request} (views : Views),
      options.request = .ok request → request.printed views = options.printed views := by
    intro options request views accepted
    unfold Request.printed Options.printed
    rw [(Options.request_eq_ok_iff.mp accepted).asJson]
  rw [run_outcome_eq]
  constructor
  · intro ended
    obtain ⟨request, asked, ended⟩ := Outcome.bind_eq_ok_iff.mp ended
    obtain ⟨options, given, accepted⟩ := Outcome.bind_eq_ok_iff.mp asked
    obtain ⟨views, viewed, rfl⟩ := Outcome.map_eq_ok_iff.mp ended
    exact ⟨options, request, views, given, accepted, viewed, sameForm views accepted⟩
  · rintro ⟨options, request, views, given, accepted, viewed, rfl⟩
    have asked : Request.ofArguments surroundings.pages arguments = .ok request :=
      Outcome.bind_eq_ok_iff.mpr ⟨options, given, accepted⟩
    rw [asked, ← sameForm views accepted]
    exact Outcome.map_eq_ok_iff.mpr ⟨views, viewed, rfl⟩

/-! ## Runs that are stopped -/

theorem output_of_stop {stop : Stop} (stopped : (run surroundings arguments).outcome = .error stop) :
    (run surroundings arguments).output = "" ∨
      stop = .showsVersion ∧ (run surroundings arguments).output = versionLine ∨
      OptionName.help.text ∈ arguments ∧ stop = .showsHelp surroundings.pages.help ∧
        (run surroundings arguments).output = surroundings.pages.help ∨
      ∃ task : CompletionTask, task.optionName.text ∈ arguments ∧
        stop = .completes (surroundings.pages.completion task) ∧
        (run surroundings arguments).output = (surroundings.pages.completion task).output := by
  have printed : (run surroundings arguments).output =
      (Report.mk (.error stop) (run surroundings arguments).logs).output := by
    unfold Report.output
    rw [stopped]
  rw [printed]
  rcases stop_of_outcome stopped with
    declined | rfl | ⟨problem, rfl⟩ | ⟨fields, rfl⟩ | ⟨fault, rfl⟩
  · cases Options.declines_of_ofArguments declined with
    | help asked => exact .inr (.inr (.inl ⟨asked, rfl, rfl⟩))
    | completion asked => exact .inr (.inr (.inr ⟨_, asked, rfl, rfl⟩))
    | misuse problem => exact .inl rfl
  · exact .inr (.inl ⟨rfl, rfl⟩)
  · exact .inl rfl
  · exact .inl rfl
  · exact .inl rfl

end

end CommandLine

end VirtualClock
