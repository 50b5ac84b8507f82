import LexicalScan.Text

/-!
A directory of files held in memory, and reading from it by path. A path is followed from left to
right, one name at a time, and every name but the last has to lead to a directory. An empty name and
a single dot stay where they are, and two dots go up. Putting a file into the directory makes every
directory on the way to it, also one that its path leaves again.
-/

namespace LexicalScan

inductive ReadFailure where
  | notFound
  | notDirectory
  | isDirectory
  | nameTooLong
  | notUnicode
  /-- A failure of the device, in its own words. -/
  | device (message : Text)
  deriving DecidableEq

namespace ReadFailure

def message : ReadFailure → Text
  | notFound => "No such file or directory (os error 2)".toList
  | notDirectory => "Not a directory (os error 20)".toList
  | isDirectory => "Is a directory (os error 21)".toList
  | nameTooLong => "File name too long (os error 36)".toList
  | notUnicode => "stream did not contain valid UTF-8".toList
  | device message => message

end ReadFailure

/-- A directory from which places are counted: the topmost one, or the one that is so many levels
above the directory that is read from. -/
inductive Anchor where
  | top
  | above (levels : Nat)
  deriving DecidableEq

namespace Anchor

def up : Anchor → Anchor
  | top => top
  | above levels => above (levels + 1)

end Anchor

structure Place where
  anchor : Anchor
  names : List Text
  deriving DecidableEq

namespace Place

def home : Place := ⟨.above 0, []⟩

def top : Place := ⟨.top, []⟩

def up (place : Place) : Place :=
  if place.names = [] then ⟨place.anchor.up, []⟩ else { place with names := place.names.dropLast }

def enter (place : Place) (name : Text) : Place :=
  if name = [] ∨ name = ['.'] then place
  else if name = ['.', '.'] then place.up
  else { place with names := place.names ++ [name] }

def startOf : Text → Place
  | '/' :: _ => top
  | _ => home

end Place

inductive Node where
  | directory
  | file (content : ByteArray)

structure Files where
  directories : List Place
  entries : List (Place × ByteArray)

def decodeText (content : ByteArray) : Except ReadFailure Text :=
  match String.fromUTF8? content with
  | none => .error .notUnicode
  | some decoded => .ok decoded.toList

namespace Files

def nameLimit : Nat := 255

def pathLimit : Nat := 4095

def namesOf (path : Text) : List Text := path.splitOn '/'

def empty : Files := ⟨[], []⟩

/-- Puts a file where its path leads, and a directory wherever its path passes. -/
def insert (files : Files) (path : Text) (content : ByteArray) : Files :=
  let start := Place.startOf path
  let names := namesOf path
  { directories := names.dropLast.scanl Place.enter start ++ files.directories
    entries := (names.foldl Place.enter start, content) :: files.entries }

def ofList (files : List (Text × ByteArray)) : Files :=
  files.foldl (fun held file => held.insert file.1 file.2) empty

def node? (files : Files) (place : Place) : Option Node :=
  match files.entries.lookup place with
  | some content => some (.file content)
  | none =>
    if place.names = [] ∨ place ∈ files.directories then some .directory else none

def follow (files : Files) (place : Place) : List Text → Except ReadFailure Node
  | [] =>
    match files.node? place with
    | none => .error .notFound
    | some node => .ok node
  | name :: rest =>
    match files.node? place with
    | none => .error .notFound
    | some (.file _) => .error .notDirectory
    | some .directory =>
      if nameLimit < Text.byteCount name then .error .nameTooLong
      else files.follow (place.enter name) rest

def find (files : Files) (path : Text) : Except ReadFailure Node :=
  if path = [] then .error .notFound
  else if pathLimit < Text.byteCount path then .error .nameTooLong
  else files.follow (Place.startOf path) (namesOf path)

def read (files : Files) (path : Text) : Except ReadFailure Text :=
  match files.find path with
  | .error failure => .error failure
  | .ok .directory => .error .isDirectory
  | .ok (.file content) => decodeText content

end Files

end LexicalScan
