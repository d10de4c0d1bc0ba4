import VirtualClock.Json.Printer
import VirtualClock.Json.Reader

/-!
# Written JSON is read back

Every text is read back from its escapes, whatever its characters are: a character
beyond the basic plane is written as two surrogates, and those are joined again.  A
value reads back when it is read off the front of any text that begins with it.  Texts
do, and an object does when its fields do and no two of them share their name.
-/

namespace VirtualClock

namespace Json

/-! ## Escapes -/

section Escapes

variable {unit : Nat} {character : Char} {codes : List Nat} {rest after : List Char}

/-- The codes that a character is written with. -/
def codesOf (character : Char) : List Nat :=
  let code := character.toNat
  if code < 0x10000 then [code]
  else [0xD800 + (code - 0x10000) / 0x400, 0xDC00 + (code - 0x10000) % 0x400]

theorem isScalar (character : Char) :
    character.toNat < 0xD800 ∨ 0xDFFF < character.toNat ∧ character.toNat < 0x110000 :=
  character.valid

theorem hexValue?_hexDigit : ∀ value < 16, hexValue? (Text.hexDigit value) = some value := by
  decide

theorem unitOf?_hexDigits (fits : unit < 0x10000) :
    unitOf? (Text.hexDigit (unit / 16 / 16 / 16 % 16)) (Text.hexDigit (unit / 16 / 16 % 16))
      (Text.hexDigit (unit / 16 % 16)) (Text.hexDigit (unit % 16)) = some unit := by
  have digit : ∀ number, hexValue? (Text.hexDigit (number % 16)) = some (number % 16) := by
    intro number
    exact hexValue?_hexDigit _ (Nat.mod_lt number (by decide))
  have total : ((unit / 16 / 16 / 16 % 16 * 16 + unit / 16 / 16 % 16) * 16 + unit / 16 % 16) * 16 +
      unit % 16 = unit := by
    omega
  simp only [unitOf?, digit, bind, Option.bind, total]

theorem readCodes_escapedUnit (fits : unit < 0x10000)
    (following : readCodes rest = some (codes, after)) :
    readCodes (escapedUnit unit ++ rest) = some (unit :: codes, after) := by
  have written : escapedUnit unit ++ rest =
      '\\' :: 'u' :: Text.hexDigit (unit / 16 / 16 / 16 % 16) ::
        Text.hexDigit (unit / 16 / 16 % 16) :: Text.hexDigit (unit / 16 % 16) ::
          Text.hexDigit (unit % 16) :: rest := rfl
  rw [written, readCodes, unitOf?_hexDigits fits, following]
  rfl

theorem readCodes_bare (noQuote : character ≠ '"') (noBackslash : character ≠ '\\')
    (printable : 0x20 ≤ character.toNat) (following : readCodes rest = some (codes, after)) :
    readCodes (character :: rest) = some (character.toNat :: codes, after) := by
  have stands : ¬(character.toNat < 0x20 ∨ character = '\\') := by
    rintro (control | backslash)
    · omega
    · exact noBackslash backslash
  rw [readCodes, if_neg stands, following]
  · rfl
  · exact noQuote
  · intro _ _ _ _ _ backslash
    exact absurd backslash noBackslash
  · intro _ _ backslash
    exact absurd backslash noBackslash

theorem readCodes_escapedChar (following : readCodes rest = some (codes, after)) :
    readCodes (escapedChar character ++ rest) = some (codesOf character ++ codes, after) := by
  unfold escapedChar
  split
  case h_8 noQuote noBackslash _ _ _ _ _ =>
    have scalar := isScalar character
    dsimp only
    by_cases plain : 0x20 ≤ character.toNat ∧ character.toNat < 0x7F
    · have alone : codesOf character = [character.toNat] := if_pos (by omega)
      rw [if_pos plain, alone]
      exact readCodes_bare noQuote noBackslash plain.1 following
    · rw [if_neg plain]
      by_cases basic : character.toNat < 0x10000
      · have alone : codesOf character = [character.toNat] := if_pos basic
        rw [if_pos basic, alone]
        exact readCodes_escapedUnit basic following
      · have pair : codesOf character = [0xD800 + (character.toNat - 0x10000) / 0x400,
            0xDC00 + (character.toNat - 0x10000) % 0x400] := if_neg basic
        rw [if_neg basic, pair, List.append_assoc]
        apply readCodes_escapedUnit (by omega)
        exact readCodes_escapedUnit (by omega) following
  -- the characters that have an escape of their own
  all_goals simp [readCodes, escapeCode?, following, codesOf]

/-- Characters are no surrogates, so the first code of one never joins the code before it. -/
theorem joinCodes_codesOf (character : Char) (codes : List Nat) :
    joinCodes (codesOf character ++ codes) = character :: joinCodes codes := by
  have scalar := isScalar character
  by_cases basic : character.toNat < 0x10000
  · have noHigh : isHighSurrogate character.toNat = false := by
      simp only [isHighSurrogate, Bool.and_eq_false_iff, decide_eq_false_iff_not]
      omega
    have noLow : isLowSurrogate character.toNat = false := by
      simp only [isLowSurrogate, Bool.and_eq_false_iff, decide_eq_false_iff_not]
      omega
    have alone : codesOf character = [character.toNat] := if_pos basic
    have itself : charOfCode character.toNat = character := by
      simp [charOfCode, noHigh, noLow]
    rw [alone, List.singleton_append]
    cases codes with
    | nil => simp only [joinCodes, itself]
    | cons next rest =>
        simp only [joinCodes, noHigh, itself, Bool.false_and, Bool.false_eq_true, if_false]
  · have pair : codesOf character = [0xD800 + (character.toNat - 0x10000) / 0x400,
        0xDC00 + (character.toNat - 0x10000) % 0x400] := if_neg basic
    have high : isHighSurrogate (0xD800 + (character.toNat - 0x10000) / 0x400) = true := by
      simp only [isHighSurrogate, Bool.and_eq_true, decide_eq_true_eq]
      omega
    have low : isLowSurrogate (0xDC00 + (character.toNat - 0x10000) % 0x400) = true := by
      simp only [isLowSurrogate, Bool.and_eq_true, decide_eq_true_eq]
      omega
    have total : 0x10000 + (0xD800 + (character.toNat - 0x10000) / 0x400 - 0xD800) * 0x400 +
        (0xDC00 + (character.toNat - 0x10000) % 0x400 - 0xDC00) = character.toNat := by
      omega
    rw [pair]
    simp only [List.cons_append, List.nil_append, joinCodes, high, low, Bool.and_self, if_true,
      total, Char.ofNat_toNat]

theorem readCodes_flatMap (content rest : List Char) :
    readCodes (content.flatMap escapedChar ++ '"' :: rest) =
      some (content.flatMap codesOf, rest) := by
  induction content with
  | nil => simp [readCodes]
  | cons first others inductionHypothesis =>
      rw [List.flatMap_cons, List.flatMap_cons, List.append_assoc]
      exact readCodes_escapedChar inductionHypothesis

theorem joinCodes_flatMap (content : List Char) :
    joinCodes (content.flatMap codesOf) = content := by
  induction content with
  | nil => rfl
  | cons first others inductionHypothesis =>
      rw [List.flatMap_cons, joinCodes_codesOf, inductionHypothesis]

theorem renderText_append (content : String) (rest : List Char) :
    renderText content ++ rest = '"' :: (content.toList.flatMap escapedChar ++ '"' :: rest) := by
  simp [renderText]

theorem readText_escaped (content : String) (rest : List Char) :
    readText (content.toList.flatMap escapedChar ++ '"' :: rest) = some (content, rest) := by
  simp only [readText, readCodes_flatMap, Option.map_some, joinCodes_flatMap, String.ofList_toList]

end Escapes

/-! ## Values -/

/-- What can follow a value, lest it go on: nothing, or one of the marks behind values. -/
def Delimits (rest : List Char) : Prop := ∀ mark ∈ rest.head?, mark ∈ [',', ']', '\x7d', '\n']

/-- The value is read off the front of every text that begins with it. -/
structure ReadsBack (value : Json) : Prop where
  unspaced : ∀ rest, skipSpace (renderChars value ++ rest) = renderChars value ++ rest
  read : ∀ fuel rest, (renderChars value).length ≤ fuel → Delimits rest →
    readValue fuel (renderChars value ++ rest) = some (value, rest)

theorem readsBack_text (content : String) : ReadsBack (.text content) where
  unspaced rest := rfl
  read := by
    intro fuel rest enough _
    have written : renderChars (.text content) ++ rest =
        '"' :: (content.toList.flatMap escapedChar ++ '"' :: rest) := by
      rw [renderChars, renderText_append]
    cases fuel with
    | zero => simp [renderChars, renderText] at enough
    | succ fuel =>
        rw [written, readValue, readText_escaped]
        rfl

/-! ### Fields -/

/-- Some fields as they stand in an object, up to its closing brace. -/
def fieldChars : List (String × Json) → List Char
  | [] => ['\x7d']
  | (name, value) :: rest =>
    '"' :: (name.toList.flatMap escapedChar ++
      '"' :: ':' :: ' ' :: (renderChars value ++ renderFields rest))

theorem renderFields_cons (field : String × Json) (rest : List (String × Json)) :
    renderFields (field :: rest) = ',' :: ' ' :: fieldChars (field :: rest) := by
  simp [renderFields, fieldChars, renderText]

theorem renderChars_object (fields : List (String × Json)) :
    renderChars (.object fields) = '\x7b' :: fieldChars fields := by
  cases fields with
  | nil => rw [renderChars, fieldChars]
  | cons field rest => simp [renderChars, fieldChars, renderText]

theorem delimits_renderFields (fields : List (String × Json)) (rest : List Char) :
    Delimits (renderFields fields ++ rest) := by
  cases fields with
  | nil => simp [renderFields, Delimits]
  | cons field others => simp [renderFields_cons, Delimits]

section Reading

variable {field : String × Json} {others : List (String × Json)} {fuel : Nat}

theorem length_fieldChars (field : String × Json) (others : List (String × Json)) :
    (renderChars field.2).length + (renderFields others).length <
      (fieldChars (field :: others)).length := by
  simp only [fieldChars, List.length_cons, List.length_append]
  omega

/-- A field and the fields behind its value, read up to the closing brace. -/
def readBehind (fuel : Nat) (field : String × Json) (behind : List Char) :
    Option (List (String × Json) × List Char) :=
  match skipSpace behind with
  | '\x7d' :: after => some ([field], after)
  | ',' :: more => do
    let (fields, after) ← readFields fuel (skipSpace more)
    some (field :: fields, after)
  | _ => none

theorem readFields_eq (readBack : ReadsBack field.2)
    (enough : (fieldChars (field :: others)).length ≤ fuel + 1) (rest : List Char) :
    readFields (fuel + 1) (fieldChars (field :: others) ++ rest) =
      readBehind fuel field (renderFields others ++ rest) := by
  have written : fieldChars (field :: others) ++ rest =
      '"' :: (field.1.toList.flatMap escapedChar ++
        '"' :: ':' :: ' ' :: (renderChars field.2 ++ (renderFields others ++ rest))) := by
    simp [fieldChars]
  have colon : ∀ more, skipSpace (':' :: more) = ':' :: more := by
    intro more
    rfl
  have blank : ∀ behind, skipSpace (' ' :: (renderChars field.2 ++ behind)) =
      renderChars field.2 ++ behind := readBack.unspaced
  have short := length_fieldChars field others
  have value := readBack.read fuel _ (by omega) (delimits_renderFields others rest)
  rw [written, readFields]
  simp only [readText_escaped, Option.bind_eq_bind, Option.bind_some, colon, blank, value]
  rfl

theorem readFields_fieldChars (field : String × Json) (others : List (String × Json))
    (readBack : ∀ member ∈ field :: others, ReadsBack member.2)
    (enough : (fieldChars (field :: others)).length ≤ fuel) (rest : List Char) :
    readFields fuel (fieldChars (field :: others) ++ rest) = some (field :: others, rest) := by
  have first := readBack field List.mem_cons_self
  -- along the fields, with the fuel: a field takes one of it, and is longer than one
  induction others generalizing field fuel with
  | nil =>
      cases fuel with
      | zero => simp [fieldChars] at enough
      | succ fuel =>
          rw [readFields_eq first enough]
          rfl
  | cons next others inductionHypothesis =>
      cases fuel with
      | zero => simp [fieldChars] at enough
      | succ fuel =>
          have later := fun member written => readBack member (List.mem_cons_of_mem field written)
          have shorter : (fieldChars (next :: others)).length ≤ fuel := by
            have short := length_fieldChars field (next :: others)
            rw [renderFields_cons, List.length_cons, List.length_cons] at short
            omega
          have following := inductionHypothesis next later shorter (later next List.mem_cons_self)
          rw [readFields_eq first enough, renderFields_cons]
          show (readFields fuel (fieldChars (next :: others) ++ rest)).bind _ = _
          rw [following]
          rfl

end Reading

/-! ### Objects -/

theorem setField_of_new {name : String} {value : Json} {fields : List (String × Json)}
    (new : name ∉ fields.map Prod.fst) :
    setField name value fields = fields ++ [(name, value)] := by
  induction fields with
  | nil => rfl
  | cons field others inductionHypothesis =>
      have apart : field.1 ≠ name := by
        rintro rfl
        exact new List.mem_cons_self
      have later : name ∉ others.map Prod.fst := by
        intro written
        exact new (List.mem_cons_of_mem _ written)
      rw [setField, if_neg apart, inductionHypothesis later]
      rfl

theorem foldl_setField (fields entries : List (String × Json))
    (distinct : ((fields ++ entries).map Prod.fst).Nodup) :
    entries.foldl (fun fields entry => setField entry.1 entry.2 fields) fields =
      fields ++ entries := by
  induction entries generalizing fields with
  | nil => rw [List.foldl_nil, List.append_nil]
  | cons entry others inductionHypothesis =>
      have new : entry.1 ∉ fields.map Prod.fst := by
        rw [List.map_append, List.nodup_append] at distinct
        intro written
        exact distinct.2.2 _ written _ List.mem_cons_self rfl
      have next : fields ++ entry :: others = (fields ++ [entry]) ++ others := by
        simp
      rw [next] at distinct ⊢
      rw [List.foldl_cons, setField_of_new new]
      exact inductionHypothesis (fields ++ [entry]) distinct

theorem collect_of_nodup {fields : List (String × Json)} (distinct : (fields.map Prod.fst).Nodup) :
    collect fields = fields :=
  foldl_setField [] fields distinct

theorem readsBack_object {fields : List (String × Json)}
    (readBack : ∀ field ∈ fields, ReadsBack field.2) (distinct : (fields.map Prod.fst).Nodup) :
    ReadsBack (.object fields) where
  unspaced := by
    intro rest
    rw [renderChars_object]
    rfl
  read := by
    intro fuel rest enough _
    rw [renderChars_object] at enough ⊢
    obtain ⟨fuel, rfl⟩ : ∃ left, fuel = left + 1 := by
      refine ⟨fuel - 1, ?_⟩
      rw [List.length_cons] at enough
      omega
    cases fields with
    | nil =>
        rw [List.cons_append, readValue]
        rfl
    | cons field others =>
        have following := readFields_fieldChars field others readBack
          (by simpa using enough : (fieldChars (field :: others)).length ≤ fuel) rest
        rw [List.cons_append, readValue]
        show (readFields fuel (fieldChars (field :: others) ++ rest)).map _ = _
        rw [following]
        show some (Json.object (collect (field :: others)), rest) = _
        rw [collect_of_nodup distinct]

/-- A value that reads back is the whole of a text in which blanks alone stand behind it. -/
theorem ReadsBack.parse_before {value : Json} (readBack : ReadsBack value) {behind : String}
    (delimits : Delimits behind.toList) (blank : skipSpace behind.toList = []) :
    parse (render value ++ behind) = some value := by
  have characters : skipSpace (render value ++ behind).toList =
      renderChars value ++ behind.toList := by
    simp [render, readBack.unspaced]
  have read := readBack.read (2 * (renderChars value ++ behind.toList).length + 1) behind.toList
    (by rw [List.length_append]; omega) delimits
  unfold parse
  simp only [characters, read, blank]
  rfl

theorem ReadsBack.parse_line {value : Json} (readBack : ReadsBack value) :
    parse (render value ++ "\n") = some value :=
  readBack.parse_before (by simp [Delimits]) rfl

theorem ReadsBack.parse_render {value : Json} (readBack : ReadsBack value) :
    parse (render value) = some value := by
  have alone : parse (render value ++ "") = some value :=
    readBack.parse_before (by simp [Delimits]) rfl
  rwa [String.append_empty] at alone

end Json

end VirtualClock
