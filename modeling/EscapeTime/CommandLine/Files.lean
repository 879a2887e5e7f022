import EscapeTime.Error

set_option autoImplicit false

namespace EscapeTime

abbrev Location := List String

structure Files where
  entries : List (Location × ByteArray)
  home : Location

inductive Target where
  | file (location : Location) (bytes : ByteArray)
  | directory
  | vacant (location : Location)
  -- The path ends in a slash as that of a directory, and there is none.
  | noDirectory (isFile : Bool)

namespace Files

def get? (files : Files) (location : Location) : Option ByteArray :=
  files.entries.lookup location

def put (files : Files) (location : Location) (bytes : ByteArray) : Files :=
  { files with entries := (location, bytes) :: files.entries.filter (·.1 ≠ location) }

theorem get?_put_self (files : Files) (location : Location) (bytes : ByteArray) :
    (files.put location bytes).get? location = some bytes := by
  simp [get?, put]

theorem lookup_filter_ne {location other : Location} (different : other ≠ location)
    (entries : List (Location × ByteArray)) :
    (entries.filter (·.1 ≠ location)).lookup other = entries.lookup other := by
  induction entries with
  | nil => rfl
  | cons entry tail ih =>
      obtain ⟨key, bytes⟩ := entry
      by_cases same : key = location
      · have absent : (other == key) = false := by simpa [same] using different
        rw [List.filter_cons_of_neg (by simp [same]), List.lookup_cons, absent, ih]
      · rw [List.filter_cons_of_pos (by simp [same]), List.lookup_cons, List.lookup_cons, ih]

theorem get?_put_other (files : Files) {location other : Location} (bytes : ByteArray)
    (different : other ≠ location) :
    (files.put location bytes).get? other = files.get? other := by
  have absent : (other == location) = false := by simpa using different
  rw [get?, get?, put, List.lookup_cons, absent]
  exact lookup_filter_ne different files.entries

def isDirectory (files : Files) (location : Location) : Bool :=
  location.isPrefixOf files.home ||
    files.entries.any fun entry => location.isPrefixOf entry.1 && location ≠ entry.1

def longestName : Nat := 255

def longestPath : Nat := 4095

def follow (files : Files) : (directory : Location) → List String → Except FileFault Target
  | _, [] => .ok .directory
  | directory, name :: rest =>
      if name = "" ∨ name = "." then files.follow directory rest
      else if name = ".." then files.follow directory.dropLast rest
      else if longestName < name.utf8ByteSize then .error .nameTooLong
      else
        let location := directory ++ [name]
        match files.get? location with
        | some bytes =>
            if rest = [] then .ok (.file location bytes)
            else if rest.all (· = "") then .ok (.noDirectory true)
            else .error .notDirectory
        | none =>
            if files.isDirectory location then files.follow location rest
            else if rest = [] then .ok (.vacant location)
            else if rest.all (· = "") then .ok (.noDirectory false)
            else .error .notFound

def namesFrom (name : List Char) : List Char → List String
  | [] => [String.ofList name.reverse]
  | c :: tail =>
      if c = '/' then String.ofList name.reverse :: namesFrom [] tail
      else namesFrom (c :: name) tail

def names (path : String) : List String :=
  namesFrom [] path.toList

def target (files : Files) (path : String) : Except FileFault Target :=
  if longestPath < path.utf8ByteSize then .error .nameTooLong
  else files.follow (if path.toList.head? = some '/' then [] else files.home) (names path)

def read (files : Files) (path : String) : Except FileFault ByteArray :=
  match files.target path with
  | .ok (.file _ bytes) => .ok bytes
  | .ok .directory => .error .isDirectory
  | .ok (.vacant _) | .ok (.noDirectory false) => .error .notFound
  | .ok (.noDirectory true) => .error .notDirectory
  | .error fault => .error fault

def readText (files : Files) (path : String) : Except FileFault String := do
  FileFault.decode (← files.read path)

def has (files : Files) (path : String) : Bool :=
  match files.target path with
  | .ok (.file _ _) | .ok .directory => true
  | _ => false

def write (files : Files) (path text : String) : Except FileFault Files :=
  match files.target path with
  | .ok (.file location _) | .ok (.vacant location) => .ok (files.put location text.toUTF8)
  | .ok .directory | .ok (.noDirectory _) => .error .isDirectory
  | .error fault => .error fault

end Files

end EscapeTime
