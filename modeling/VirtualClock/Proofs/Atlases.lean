import Mathlib.Data.List.TakeWhile
import VirtualClock.Zone.Atlas

/-!
# What the search of an atlas comes to

A name is looked for as a file: its last part stands in the directory that the path before it
leads to, or in the root.  The search finds a region of that name or reports the name as unknown,
unless something is in the way.  A directory of the whole name is in the way, and so is a last
part that is too long for a file.

Nothing here depends on which regions and which directories the atlas has.
-/

namespace VirtualClock.Atlas

variable {directories : List Directory} {directory : Directory} {text last : List Char}
  {name : String}

/-! ## The last part of a name -/

theorem ne_slash_of_mem_reverse (plain : '/' ∉ last) :
    ∀ character ∈ last.reverse, (character != '/') = true := by
  intro character member
  rw [List.mem_reverse] at member
  rw [bne_iff_ne]
  rintro rfl
  exact plain member

theorem splitPath_of_path (path : List Char) (plain : '/' ∉ last) :
    splitPath (path ++ '/' :: last) = (some path, last) := by
  have reversed : (path ++ '/' :: last).reverse = last.reverse ++ '/' :: path.reverse := by
    simp
  have taken : (path ++ '/' :: last).reverse.takeWhile (· != '/') = last.reverse := by
    rw [reversed, List.takeWhile_append_of_pos (ne_slash_of_mem_reverse plain)]
    simp
  have above : (path ++ '/' :: last).take ((path ++ '/' :: last).length - last.length) =
      path ++ ['/'] := by
    have length : (path ++ '/' :: last).length - last.length = (path ++ ['/']).length := by
      simp only [List.length_append, List.length_cons, List.length_nil]
      omega
    rw [length]
    have regrouped : path ++ '/' :: last = (path ++ ['/']) ++ last := by simp
    rw [regrouped, List.take_left]
  unfold splitPath
  dsimp only
  rw [taken, List.reverse_reverse, above]
  simp

theorem splitPath_of_plain (plain : '/' ∉ last) : splitPath last = (none, last) := by
  have taken : last.reverse.takeWhile (· != '/') = last.reverse :=
    List.takeWhile_eq_self_iff.mpr (ne_slash_of_mem_reverse plain)
  simp [splitPath, taken]

/-- A text is one part or ends with a slash and one part. -/
theorem plain_or_path (text : List Char) :
    '/' ∉ text ∨ ∃ path last, '/' ∉ last ∧ text = path ++ '/' :: last := by
  by_cases slash : '/' ∈ text
  · have member : '/' ∈ text.reverse := by simpa using slash
    obtain ⟨after, before, reversed, first⟩ := List.eq_append_cons_of_mem member
    refine .inr ⟨before.reverse, after.reverse, by simpa using first, ?_⟩
    have text_eq := congrArg List.reverse reversed
    simpa using text_eq
  · exact .inl slash

/-- The last part of a text is looked for in the directory of the path before it, or in the root. -/
inductive LooksIn : List Char → Directory → List Char → Prop where
  | root {last : List Char} (plain : '/' ∉ last) : LooksIn last (directoryAt none) last
  | path {path last : List Char} (plain : '/' ∉ last) :
      LooksIn (path ++ '/' :: last) (directoryAt (some path)) last

theorem looksIn_splitPath (text : List Char) :
    LooksIn text (directoryAt (splitPath text).1) (splitPath text).2 := by
  rcases plain_or_path text with plain | ⟨path, last, plain, rfl⟩
  · rw [splitPath_of_plain plain]
    exact .root plain
  · rw [splitPath_of_path path plain]
    exact .path plain

theorem LooksIn.eq_splitPath (looks : LooksIn text directory last) :
    directory = directoryAt (splitPath text).1 ∧ last = (splitPath text).2 := by
  cases looks with
  | root plain =>
      rw [splitPath_of_plain plain]
      exact ⟨rfl, rfl⟩
  | path plain =>
      rw [splitPath_of_path _ plain]
      exact ⟨rfl, rfl⟩

/-- The last part is itself a directory where it is looked for. -/
def LeadsToDirectory (directories : List Directory) (name : String) : Prop :=
  ∃ directory last, LooksIn name.toList directory last ∧
    directory ++ [String.ofList last] ∈ directories

theorem isDirectory_iff : isDirectory directories name = true ↔ LeadsToDirectory directories name := by
  unfold isDirectory
  rw [List.contains_iff_mem]
  constructor
  · intro leads
    exact ⟨_, _, looksIn_splitPath name.toList, leads⟩
  · rintro ⟨directory, last, looks, leads⟩
    obtain ⟨rfl, rfl⟩ := looks.eq_splitPath
    exact leads

/-- The last part is too long for a file name, in a directory where it is looked for. -/
def HasLongLastPart (directories : List Directory) (name : String) : Prop :=
  ∃ directory last, LooksIn name.toList directory last ∧ directory ∈ [] :: directories ∧
    Char.ofNat 0 ∉ last ∧ longestFileName < (String.ofList last).utf8ByteSize

theorem isTooLong_iff : isTooLong directories name = true ↔ HasLongLastPart directories name := by
  unfold isTooLong
  simp only [Bool.and_eq_true, Bool.not_eq_true', List.contains_eq_mem, decide_eq_true_eq,
    decide_eq_false_iff_not]
  constructor
  · rintro ⟨⟨stands, noZero⟩, long⟩
    exact ⟨_, _, looksIn_splitPath name.toList, stands, noZero, long⟩
  · rintro ⟨directory, last, looks, stands, noZero, long⟩
    obtain ⟨rfl, rfl⟩ := looks.eq_splitPath
    exact ⟨⟨stands, noZero⟩, long⟩

/-! ## What the search for a name comes to -/

section

variable [Atlas]

/-- The tree of names has something other than a region in the way of the name. -/
def IsBlocked (name : String) : Prop :=
  LeadsToDirectory Atlas.directories name ∨ HasLongLastPart Atlas.directories name

def IsKnown (name : String) : Prop :=
  ∃ place ∈ regions, place.name = name

inductive Search (name : String) : Except Fault Region → Prop where
  | found {place : Region} (member : place ∈ regions) (named : place.name = name)
      (free : ¬IsBlocked name) : Search name (.ok place)
  | unknown (missing : ¬IsKnown name) (free : ¬IsBlocked name) :
      Search name (.error (.unknownZone name))
  | directory (missing : ¬IsKnown name) (leads : LeadsToDirectory Atlas.directories name) :
      Search name (.error .zoneIsDirectory)
  | tooLong (missing : ¬IsKnown name) (long : HasLongLastPart Atlas.directories name) :
      Search name (.error .zoneNameTooLong)

theorem not_isBlocked_of_isKnown (known : IsKnown name) : ¬IsBlocked name := by
  obtain ⟨place, member, rfl⟩ := known
  obtain ⟨noDirectory, short⟩ := areFiles place member
  rintro (leads | long)
  · rw [isDirectory_iff.mpr leads] at noDirectory
    cases noDirectory
  · rw [isTooLong_iff.mpr long] at short
    cases short

theorem find_search (name : String) : Search name (find name) := by
  unfold find
  cases looked : regions.find? fun region => region.name == name with
  | some place =>
      have member : place ∈ regions := List.mem_of_find?_eq_some looked
      have named : place.name = name := by simpa using List.find?_some looked
      exact .found member named (not_isBlocked_of_isKnown ⟨place, member, named⟩)
  | none =>
      have missing : ¬IsKnown name := by
        rintro ⟨place, member, named⟩
        have other := List.find?_eq_none.mp looked place member
        simp [named] at other
      dsimp only
      split
      next leads => exact .directory missing (isDirectory_iff.mp leads)
      next noDirectory =>
        split
        next long => exact .tooLong missing (isTooLong_iff.mp long)
        next short =>
          refine .unknown missing ?_
          rintro (leads | long)
          · exact noDirectory (isDirectory_iff.mpr leads)
          · exact short (isTooLong_iff.mpr long)

/-- The search for a zone fails only in ways of its own. -/
theorem find_eq_error {fault : Fault} (lost : find name = .error fault) :
    fault = .zoneIsDirectory ∨ fault = .zoneNameTooLong ∨ fault = .unknownZone name := by
  have search := find_search name
  rw [lost] at search
  cases search with
  | unknown => exact .inr (.inr rfl)
  | directory => exact .inl rfl
  | tooLong => exact .inr (.inl rfl)

theorem isKnown_iff : IsKnown name ↔ ∃ place, find name = .ok place := by
  have search := find_search name
  generalize find name = answer at search ⊢
  cases search with
  | found member named _ => exact ⟨fun _ => ⟨_, rfl⟩, fun _ => ⟨_, member, named⟩⟩
  | unknown missing _ => simp [missing]
  | directory missing _ => simp [missing]
  | tooLong missing _ => simp [missing]

theorem mem_of_find {place : Region} (found : find name = .ok place) : place ∈ regions := by
  have search := find_search name
  rw [found] at search
  cases search with
  | found member _ _ => exact member

/-- The faults of the search that are no report of an unknown name. -/
def Escapes (name : String) (fault : Fault) : Prop :=
  (fault = .zoneIsDirectory ∧ LeadsToDirectory Atlas.directories name) ∨
    (fault = .zoneNameTooLong ∧ HasLongLastPart Atlas.directories name)

theorem find_of_isBlocked (blocked : IsBlocked name) :
    ∃ fault, Escapes name fault ∧ find name = .error fault := by
  have search := find_search name
  generalize find name = answer at search ⊢
  cases search with
  | found _ _ free => exact absurd blocked free
  | unknown _ free => exact absurd blocked free
  | directory _ leads => exact ⟨_, .inl ⟨rfl, leads⟩, rfl⟩
  | tooLong _ long => exact ⟨_, .inr ⟨rfl, long⟩, rfl⟩

theorem Escapes.isBlocked {fault : Fault} (escapes : Escapes name fault) : IsBlocked name := by
  rcases escapes with ⟨_, leads⟩ | ⟨_, long⟩
  · exact .inl leads
  · exact .inr long

/-- The answer passes the names in the atlas and refuses all others. -/
def Judges {Answer : Type} (name : String) (passed refused answer : Answer) : Prop :=
  (IsKnown name ∧ answer = passed) ∨ (¬IsKnown name ∧ answer = refused)

/-- A check that goes by the search judges the names that are not blocked, if it refuses no
name for what blocks it. -/
theorem judges_iff {Answer : Type} {passed refused : Answer} {check : Except Fault Region → Answer}
    (passes : ∀ place, check (.ok place) = passed)
    (refuses : check (.error (.unknownZone name)) = refused)
    (escapes : ∀ fault, Escapes name fault → check (.error fault) ≠ refused) :
    Judges name passed refused (check (find name)) ↔ ¬IsBlocked name := by
  constructor
  · rintro judged blocked
    obtain ⟨fault, escaped, answer⟩ := find_of_isBlocked blocked
    rw [answer] at judged
    rcases judged with ⟨known, _⟩ | ⟨_, refused⟩
    · exact not_isBlocked_of_isKnown known blocked
    · exact escapes fault escaped refused
  · intro free
    have search := find_search name
    generalize find name = answer at search ⊢
    cases search with
    | found member named _ => exact .inl ⟨⟨_, member, named⟩, passes _⟩
    | unknown missing _ => exact .inr ⟨missing, refuses⟩
    | directory _ leads => exact absurd (.inl leads) free
    | tooLong _ long => exact absurd (.inr long) free

end

end VirtualClock.Atlas
