import VirtualClock.Zone.Atlas.Africa
import VirtualClock.Zone.Atlas.America
import VirtualClock.Zone.Atlas.Asia
import VirtualClock.Zone.Atlas.Europe
import VirtualClock.Zone.Atlas.Oceania
import VirtualClock.Zone.Atlas.Steady
import VirtualClock.Fault

/-!
# Atlases of regions

An atlas holds the regions that a machine knows, and finds them by their names.
Names are paths in a tree of files: a name that leads to a directory, or whose
last part is too long for a file name, fails in a way of its own.

Machines have different atlases, so whatever looks up a name does it in an
atlas that it is given.  The excerpt at the end is the one that the program
runs with when it is given no other.
-/

namespace VirtualClock

namespace Atlas

/-- A directory is told by the way to it from the root of the tree. -/
abbrev Directory := List String

/-- The greatest size of a file name in bytes. -/
def longestFileName : Nat := 255

/-- The path up to the last slash, when there is one, and the part after it. -/
def splitPath (name : List Char) : Option (List Char) × List Char :=
  let last := (name.reverse.takeWhile (· != '/')).reverse
  let above := name.take (name.length - last.length)
  (if above.isEmpty then none else some above.dropLast, last)

/-- The steps of a path; a dot leads a step down the tree as a slash does. -/
def steps : List Char → List (List Char)
  | [] => [[]]
  | character :: rest =>
    if character == '/' || character == '.' then [] :: steps rest
    else
      match steps rest with
      | [] => [[character]]
      | step :: further => (character :: step) :: further

/-- The directory that a path leads to; without a path it is the root. -/
def directoryAt : Option (List Char) → Directory
  | none => []
  | some path => (steps path).map String.ofList

/-- The name leads to a directory of the tree. -/
def isDirectory (directories : List Directory) (name : String) : Bool :=
  let (path, last) := splitPath name.toList
  directories.contains (directoryAt path ++ [String.ofList last])

/-- The last part of the name is looked for in a directory of the tree, or in its root, and is too
long for a file name. -/
def isTooLong (directories : List Directory) (name : String) : Bool :=
  let (path, last) := splitPath name.toList
  ([] :: directories).contains (directoryAt path) && !last.contains (Char.ofNat 0) &&
    longestFileName < (String.ofList last).utf8ByteSize

end Atlas

/-- The regions that are found, one for every name of it, and the directories of their tree. -/
class Atlas where
  regions : List Region
  directories : List Atlas.Directory
  /-- Regions are files of the tree. -/
  areFiles : ∀ place ∈ regions, Atlas.isDirectory directories place.name = false ∧
    Atlas.isTooLong directories place.name = false

namespace Atlas

def find [Atlas] (name : String) : Except Fault Region :=
  match regions.find? fun region => region.name == name with
  | some region => .ok region
  | none =>
    if isDirectory directories name then .error .zoneIsDirectory
    else if isTooLong directories name then .error .zoneNameTooLong
    else .error (.unknownZone name)

/-! ## The excerpt -/

def excerptRegions : List Region :=
  [universal, berlin, newYork, tokyo, kolkata, kathmandu, lordHowe, apia, honolulu, dublin,
   stJohns, kiritimati, monrovia, behindTwelve, aheadFourteen, nuuk, casablanca, troll,
   pyongyang, cairo]

/-- The directories of regions; each of them, as the root, has a directory of compiled files
in it. -/
def excerptDirectories : List Directory :=
  let places : List Directory :=
    [["Africa"], ["America"], ["America", "Argentina"], ["America", "Indiana"],
     ["America", "Kentucky"], ["America", "North_Dakota"], ["Antarctica"], ["Arctic"], ["Asia"],
     ["Atlantic"], ["Australia"], ["Brazil"], ["Canada"], ["Chile"], ["Etc"], ["Europe"],
     ["Indian"], ["Mexico"], ["Pacific"], ["US"]]
  places ++ ([] :: places).map fun place => place ++ ["__pycache__"]

/-- Twenty regions, among them those with the oddest histories, in the full tree of directories. -/
instance excerpt : Atlas where
  regions := excerptRegions
  directories := excerptDirectories
  areFiles := by decide +kernel

end Atlas

end VirtualClock
