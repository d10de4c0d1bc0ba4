import VirtualClock.Fault

/-!
# Files and directories

Names of files, how they are followed from directory to directory, and what is
known of a file system: its directories, its text files and the homes of its
users.  Only what a name leads to is of interest here; nothing is read or
written.
-/

namespace VirtualClock

/-! ## Names of files -/

/-- The name of a file: the names of the directories on the way and its own, from
the root of all directories or from the current one. -/
structure PathName where
  isAbsolute : Bool
  parts : List String
  deriving DecidableEq, Repr

namespace PathName

/-- The name that a text writes.  Parts that stay in place are left out. -/
def ofText (text : String) : PathName :=
  ⟨text.startsWith "/", (text.splitOn "/").filter fun part => part != "." && part != ""⟩

/-- The name as a text; the current directory has an empty one. -/
def text (path : PathName) : String :=
  (if path.isAbsolute then "/" else "") ++ String.intercalate "/" path.parts

/-- A further part after a row of parts; two dots take the last one back. -/
def goOn (isAbsolute : Bool) (parts : List String) (part : String) : List String :=
  if part != ".." then parts ++ [part]
  else
    match parts.getLast? with
    | some last => if last == ".." then parts ++ [part] else parts.dropLast
    | none => if isAbsolute then [] else [part]

/-- The name without steps back, so far as there is something to go back from. -/
def collapsed (path : PathName) : PathName :=
  { path with parts := path.parts.foldl (goOn path.isAbsolute) [] }

/-- The directories on the way to the name. -/
def directories (path : PathName) : List String :=
  (List.range path.parts.length).map fun count => { path with parts := path.parts.take count }.text

/-- The most bytes of one part. -/
def longestPart : Nat := 255

/-- The most bytes of a name. -/
def longestName : Nat := 4095

end PathName

/-- Where the name of a file leads. -/
inductive Destination where
  | directory
  /-- A place in a directory, where a file can be. -/
  | place (path : PathName)
  /-- A directory on the way is missing. -/
  | nowhere
  /-- A file stands on the way. -/
  | blocked
  deriving DecidableEq, Repr

/-! ## File systems -/

/-- What is known of a file system. -/
structure Disk where
  directories : List String
  /-- The texts of the files. -/
  files : List (String × String)
  /-- The homes of the users; the user of the program goes without a name. -/
  homes : List (String × String)
  deriving DecidableEq, Repr

namespace Disk

/-- Follows the parts of a name from a place that was reached.  A part that is too
long stops the way where it stands. -/
def followFrom (disk : Disk) (reached : PathName) : List String → Except Fault Destination
  | [] => .ok .directory
  | part :: rest =>
    let next : PathName := { reached with parts := reached.parts ++ [part] }
    if PathName.longestPart < part.utf8ByteSize then .error .fileNameTooLong
    else if disk.directories.contains next.text then disk.followFrom next rest
    else if rest.isEmpty then .ok (.place next)
    else if (disk.files.lookup next.text).isSome then .ok .blocked
    else .ok .nowhere

def follow (disk : Disk) (path : PathName) : Except Fault Destination :=
  if path.text.contains '\x00' then .error .zeroInName
  else if PathName.longestName < path.text.utf8ByteSize then .error .fileNameTooLong
  else disk.followFrom ⟨path.isAbsolute, []⟩ path.parts

/-- The name with the home of a user in the place of a tilde and the user's name. -/
def expandHome (disk : Disk) (path : PathName) : Except Fault PathName :=
  match path.isAbsolute, path.parts with
  | false, first :: rest =>
    match first.toList with
    | '~' :: user =>
      if user.contains '\x00' then .error .zeroInName
      else
        match disk.homes.lookup (String.ofList user) with
        | some home =>
          let home := PathName.ofText home
          .ok { home with parts := home.parts ++ rest }
        | none => .error .unknownHome
    | _ => .ok path
  | _, _ => .ok path

/-- The text of the file that a name leads to, when there is one.  A name that no
file can have leads to none, but one that is too long is a fault. -/
def textOf? (disk : Disk) (name : String) : Except Fault (Option String) := do
  let path ← disk.expandHome (PathName.ofText name)
  match disk.follow path with
  | .ok (.place path) => pure (disk.files.lookup path.text)
  | .ok _ => pure none
  | .error .zeroInName => pure none
  | .error fault => .error fault

end Disk

end VirtualClock
