import Coffer.Bytes
import Coffer.Path
import Coffer.Text.Quoted

/-!
A file tree, as far as the vault, import files and log files need one. Files are replaced as a
whole: the new contents are written to a draft, which then takes the place of the file at one go. A
replacement that fails leaves the old file, and no draft.
-/

namespace Coffer

inductive DiskError where
  | notFound
  | notAFolder
  | isAFolder
  | exists
  | nameTooLong
  | full
deriving DecidableEq, Repr

/-- The system's words for it. -/
def DiskError.reason : DiskError → String
  | .notFound => "No such file or directory"
  | .notAFolder => "Not a directory"
  | .isAFolder => "Is a directory"
  | .exists => "File exists"
  | .nameTooLong => "File name too long"
  | .full => "No space left on device"

inductive DiskEntry where
  | file (contents : Bytes)
  | folder
deriving DecidableEq, Repr

/-- A file tree: the entries below the roots, and whether replacing files fails for want of space.
-/
structure Disk where
  entries : List (Path × DiskEntry)
  isFull : Bool := false
deriving DecidableEq, Repr

namespace Disk

def empty : Disk :=
  ⟨[], false⟩

def maxNameSize : Nat := 255

def maxPathSize : Nat := 4095

def entry? (d : Disk) (p : Path) : Option DiskEntry :=
  if p.names = [] then some .folder else d.entries.lookup p

def put (d : Disk) (p : Path) (e : DiskEntry) : Disk :=
  { d with entries := (d.entries.filter (·.1 ≠ p)) ++ [(p, e)] }

/-- The tree without the entry at a place. -/
def remove (d : Disk) (p : Path) : Disk :=
  { d with entries := d.entries.filter (·.1 ≠ p) }

def follow (d : Disk) (at_ : Path) (e : DiskEntry) : List String → Except DiskError DiskEntry
  | [] => .ok e
  | name :: rest =>
    match e with
    | .file _ => .error .notAFolder
    | .folder =>
      if name.utf8ByteSize > maxNameSize then .error .nameTooLong
      else
        match d.entry? (at_.child name) with
        | none => .error .notFound
        | some e => d.follow (at_.child name) e rest

/-- What is at a place, found by following its names from the root. -/
def find (d : Disk) (p : Path) : Except DiskError DiskEntry :=
  d.follow p.root .folder p.names

def isPresent (d : Disk) (p : Path) : Bool :=
  (d.find p).toOption.isSome

def isFolder (d : Disk) (p : Path) : Bool :=
  match d.find p with
  | .ok .folder => true
  | _ => false

def contents : Except DiskError DiskEntry → Except DiskError Bytes
  | .ok (.file bytes) => .ok bytes
  | .ok .folder => .error .isAFolder
  | .error e => .error e

def read (d : Disk) (p : Path) : Except DiskError Bytes :=
  contents (d.find p)

/-- Follows a path as it is written: blank and dot names stay, two dots go up. -/
def walk (d : Disk) (at_ : Path) (e : DiskEntry) : List String → Except DiskError DiskEntry
  | [] => .ok e
  | name :: rest =>
    match e with
    | .file _ => .error .notAFolder
    | .folder =>
      if name = "" ∨ name = "." then d.walk at_ .folder rest
      else if name = ".." then d.walk at_.parent .folder rest
      else if name.utf8ByteSize > maxNameSize then .error .nameTooLong
      else
        match d.entry? (at_.child name) with
        | none => .error .notFound
        | some e => d.walk (at_.child name) e rest

/-- The contents of the file that a path means as it is written, seen from a folder. -/
def readFrom (d : Disk) (current : Path) (path : String) : Except DiskError Bytes :=
  if path.utf8ByteSize > maxPathSize then .error .nameTooLong
  else
    let start := if Path.isRooted path then current.root else current
    contents (d.walk start .folder (Path.parts path))

def makeFolder (d : Disk) (p : Path) : Except DiskError Disk :=
  match d.find p with
  | .ok _ => .error .exists
  | .error .notFound =>
    match d.find p.parent with
    | .ok _ => .ok (d.put p .folder)
    | .error e => .error e
  | .error e => .error e

/-- Makes a folder and those it lies in, as far as they do not exist. The names are those of the
path, the last one first. What was made before a failure stays. -/
def makeFoldersFrom (doubled : Bool) (d : Disk) : List String → Except DiskError Unit × Disk
  | [] => (.ok (), d)
  | name :: rest =>
    let p : Path := ⟨doubled, (name :: rest).reverse⟩
    let (made, d) :=
      if d.isPresent p.parent then (.ok (), d) else makeFoldersFrom doubled d rest
    match made with
    | .error e => (.error e, d)
    | .ok () =>
      match d.makeFolder p with
      | .ok d => (.ok (), d)
      | .error e => (if d.isFolder p then .ok () else .error e, d)

/-- Makes a folder and those it lies in, as far as they do not exist. -/
def makeFolders (d : Disk) (p : Path) : Except DiskError Unit × Disk :=
  makeFoldersFrom p.doubled d p.names.reverse

/-- Puts a file in another place at one go. A file that is there is lost. -/
def move (d : Disk) (p q : Path) : Except DiskError Disk :=
  if d.isFull then .error .full
  else if d.isFolder q then .error .isAFolder
  else
    match d.read p with
    | .ok contents => .ok ((d.remove p).put q (.file contents))
    | .error e => .error e

/-- Where a draft of a file is written: beside it, under a hidden name with a number in it. -/
def draft (p : Path) (n : Nat) : Path :=
  p.parent.child ("." ++ p.base ++ "." ++ String.ofList (Text.hexPadded 8 n) ++ ".tmp")

/-- How much longer than a file's name that of a draft is. -/
def draftNameExtra : Nat := 14

/-- How many numbers are tried for a draft. -/
def maxDrafts : Nat := 10000

/-- The first of some drafts, from a number on, that there is nothing in the place of. -/
def freeDraft? (d : Disk) (p : Path) (n : Nat) : Nat → Option Path
  | 0 => none
  | tries + 1 =>
    match d.entry? (draft p n) with
    | none => some (draft p n)
    | some _ => d.freeDraft? p (n + 1) tries

/-- Replaces a file: the new contents are written to a draft, which is put in the place of the file.
If it cannot be, it is removed again. -/
def replace (d : Disk) (p : Path) (contents : Bytes) : Except DiskError Unit × Disk :=
  if p.base.utf8ByteSize + draftNameExtra > maxNameSize then (.error .nameTooLong, d)
  else
    match d.freeDraft? p 0 maxDrafts with
    | none => (.error .exists, d)
    | some q =>
      let written := d.put q (.file contents)
      match written.move q p with
      | .ok d => (.ok (), d)
      | .error e => (.error e, written.remove q)

/-- Makes the folder of a file if there is none, and replaces the file. -/
def store (d : Disk) (p : Path) (contents : Bytes) : Except DiskError Unit × Disk :=
  match d.makeFolders p.parent with
  | (.error e, d) => (.error e, d)
  | (.ok (), d) => d.replace p contents

def below (d : Disk) (p : Path) : List (List String × DiskEntry) :=
  d.entries.filterMap fun (q, e) =>
    if q.doubled = p.doubled ∧ p.names.isPrefixOf q.names ∧ p ≠ q then
      some (q.names.drop p.names.length, e)
    else none

/-- The paths below a folder in ascending order, folders with a slash at their end. -/
def listing (d : Disk) (p : Path) : List String :=
  ((d.below p).map fun (names, e) =>
    String.intercalate "/" names ++ (if e = .folder then "/" else "")).mergeSort (· ≤ ·)

end Disk

end Coffer
