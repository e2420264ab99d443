/-
  CodecForge — files below a working directory.

  * a path is read as its components, without empty ones and without single
    dots; `Path.text` is how it is written in messages, `Path.suffix` the end of
    its last component;
  * `Files` maps paths to texts, and the directories are those that the paths
    need; `Files.find` says what stands at a path;
  * `Files.read`, `Files.write` and `Files.exists_` report the system's error and
    its number; what has a text exists (`Files.exists_of_read`).
-/
import CodecForge.Entries
import CodecForge.Text.Case
import CodecForge.Text.Lines
import CodecForge.Text.Quoted

namespace CodecForge

/-! ## Paths -/

/-- A path: what it begins with, `/`, `//` or nothing, and its components. -/
structure Path where
  root : String
  parts : List String
deriving DecidableEq, Repr

namespace Path

/-- What an absolute path begins with: two slashes only if there are no more. -/
def rootOf (cs : List Char) : String :=
  match (cs.takeWhile (· == '/')).length with
  | 0 => ""
  | 2 => "//"
  | _ => "/"

def ofString (s : String) : Path :=
  ⟨rootOf s.toList, (Text.parts '/' s).filter fun p => p ≠ "" ∧ p ≠ "."⟩

/-- The path as it is written, a single dot for the working directory. -/
def text (p : Path) : String :=
  if p.root.isEmpty && p.parts.isEmpty then "." else p.root ++ "/".intercalate p.parts

/-- The components from the working directory on; an absolute path has its root
    as the first one. -/
def location (p : Path) : List String := if p.root.isEmpty then p.parts else p.root :: p.parts

/-- The path with a location. -/
def ofLocation : List String → Path
  | "/" :: parts => ⟨"/", parts⟩
  | "//" :: parts => ⟨"//", parts⟩
  | parts => ⟨"", parts⟩

/-- The paths on the way to a path, itself the last one. -/
def way (p : Path) : List Path :=
  (List.range (p.parts.length + 1)).map fun n => { p with parts := p.parts.take n }

/-- The last component. -/
def name (p : Path) : String := p.parts.getLastD ""

/-- The last component from its last dot on, unless that is its first or its
    last character. -/
def suffix (p : Path) : String :=
  let cs := p.name.toList
  let ending := (cs.reverse.takeWhile (· ≠ '.')).reverse
  if ending.isEmpty || ending.length + 1 ≥ cs.length then "" else "." ++ String.ofList ending

/-- Whether the path ends as JSON files do, in any letter case. -/
def isJson (p : Path) : Bool := Text.lowerString p.suffix = ".json"

end Path

/-! ## Files -/

/-- Texts under their paths. -/
abbrev Files := List (List String × String)

/-- What stands at a path. -/
inductive FileNode where
  | file (text : String)
  | directory
  | missing
  /-- something on the way is no directory -/
  | blocked
  /-- the path, or a component that is looked up, is too long -/
  | tooLong
deriving DecidableEq, Repr

/-- An error of the system. -/
inductive SystemError where
  | noSuchFile (path : String)
  | notDirectory (path : String)
  | isDirectory (path : String)
  | nameTooLong (path : String)
  /-- no path holds the character with the number 0 -/
  | badName
  /-- no file holds half a pair -/
  | halfPair
deriving DecidableEq, Repr

/-- The text of an error, with its number. -/
def SystemError.message : SystemError → String
  | .noSuchFile path => s!"[Errno 2] No such file or directory: {Text.quoted path}"
  | .notDirectory path => s!"[Errno 20] Not a directory: {Text.quoted path}"
  | .isDirectory path => s!"[Errno 21] Is a directory: {Text.quoted path}"
  | .nameTooLong path => s!"[Errno 36] File name too long: {Text.quoted path}"
  | .badName => "embedded null byte"
  | .halfPair => "surrogates not allowed"

namespace Files

/-! ### Locations -/

/-- The directory above a location.  A root has none above it; above the working
    directory the way up is the location. -/
def above (here : List String) : List String :=
  if here = ["/"] || here = ["//"] then here
  else if here.all (· = "..") then here ++ [".."]
  else here.dropLast

/-- The location that a component leads to: two dots lead to the directory
    above. -/
def step (here : List String) (part : String) : List String :=
  if part = ".." then above here else here ++ [part]

/-- The location that a path leads to. -/
def resolved (p : Path) : List String := p.location.foldl step []

/-- Whether a location is below the working directory. -/
def isBelow (here : List String) : Bool :=
  here.head?.any fun part => part ≠ ".." && part ≠ "/" && part ≠ "//"

/-! ### Contents -/

/-- Files given by the texts of their paths. -/
def ofPairs (ps : List (String × String)) : Files :=
  Entries.ofPairs (ps.map fun p => (resolved (Path.ofString p.1), p.2))

/-- The files with a directory that may be empty: its entry has no name. -/
def withDirectory (files : Files) (p : Path) : Files :=
  Entries.put (resolved p ++ [""]) "" files

/-- Whether a location is a directory whatever the files are: the working
    directory, one above it, or a root. -/
def isGiven (here : List String) : Bool :=
  here.all (· = "..") || here = ["/"] || here = ["//"]

/-- What stands at a location. -/
def at_ (files : Files) (here : List String) : FileNode :=
  match Entries.get? here files with
  | some text => .file text
  | none =>
    if isGiven here || files.any (fun f => here.isPrefixOf f.1) then .directory else .missing

/-- How many bytes a component may have. -/
def longestName : Nat := 255

/-- How many bytes a path may have. -/
def longestPath : Nat := 4095

/-- Follows components from a location. -/
def follow (files : Files) (here : List String) : List String → FileNode
  | [] => files.at_ here
  | p :: ps =>
    match files.at_ here with
    | .file _ | .blocked => .blocked
    | .missing => .missing
    | .tooLong => .tooLong
    | .directory =>
      if p.utf8ByteSize > longestName then .tooLong else follow files (step here p) ps

/-- Whether a path holds the character with the number 0. -/
def isBadName (p : Path) : Bool := p.text.toList.any fun c => c.toNat = 0

/-- What stands at a path. -/
def find (files : Files) (p : Path) : FileNode :=
  if isBadName p then .missing
  else if p.text.utf8ByteSize > longestPath then .tooLong
  else files.follow [] p.location

/-- Whether something stands at a path. -/
def exists_ (files : Files) (p : Path) : Except SystemError Bool :=
  match files.find p with
  | .file _ | .directory => .ok true
  | .missing | .blocked => .ok false
  | .tooLong => .error (.nameTooLong p.text)

/-- The text at a path, every line break as a line feed. -/
def read (files : Files) (p : Path) : Except SystemError String :=
  match files.find p with
  | .file text => .ok (String.ofList (Text.unifyLineFeeds text.toList))
  | .directory => .error (.isDirectory p.text)
  | .missing => .error (.noSuchFile p.text)
  | .blocked => .error (.notDirectory p.text)
  | .tooLong => .error (.nameTooLong p.text)

/-- A file with a text is there. -/
theorem exists_of_read {files : Files} {p : Path} {text : String} (h : files.read p = .ok text) :
    files.exists_ p = .ok true := by
  unfold read at h
  unfold exists_
  cases hfind : files.find p with
  | file _ | directory => rfl
  | missing | blocked | tooLong =>
    rw [hfind] at h
    cases h

/-- Writes a text at a path; the directory must be there. -/
def write (files : Files) (p : Path) (text : String) : Except SystemError Files :=
  let written : Except SystemError Files :=
    if Text.hasHalf text then .error .halfPair else .ok (Entries.put (resolved p) text files)
  if isBadName p then .error .badName else
  match files.find p with
  | .tooLong => .error (.nameTooLong p.text)
  | .directory => .error (.isDirectory p.text)
  | .blocked => .error (.notDirectory p.text)
  | .file _ => written
  | .missing =>
    match files.find { p with parts := p.parts.dropLast } with
    | .directory => written
    | _ => .error (.noSuchFile p.text)

end Files

end CodecForge
