import Gatehouse.Identity

/-!
# Directories

A directory as the commands see it: files with their texts under their paths.  A file may stand in a
directory inside it, if there is one.
-/

namespace Gatehouse

/-- The files of a directory, each path once. -/
abbrev Directory := List (String × String)

namespace Directory

/-- A path without the dots that name the directory itself. -/
def plainPath : List Char → List Char
  | '.' :: '/' :: rest => plainPath rest
  | cs => cs

/-- Does a path name a directory? -/
def isDirectory (d : Directory) (path : List Char) : Bool :=
  path == ['.'] || path.getLast? == some '/'
    || d.any fun file => (path ++ ['/']).isPrefixOf file.1.toList

/-- What a path leads to. -/
def read (d : Directory) (path : String) : FileContent :=
  let plain := plainPath path.toList
  match d.lookup (String.ofList plain) with
  | some text => .file (Utf8.encode text)
  | none => if isDirectory d plain then .directory else .missing

/-- The directory in which a path stands, if it is not this one. -/
def parent (path : List Char) : List Char := ((path.reverse.dropWhile (· != '/')).drop 1).reverse

/-- Write a file, over the one that is there, if any. -/
def write (d : Directory) (path text : String) : Except SystemError Directory :=
  let plain := plainPath path.toList
  if isDirectory d plain then .error .isDirectory
  else if plain.isEmpty || (plain.contains '/' && !isDirectory d (parent plain)) then
    .error .noSuchFile
  else
    let name := String.ofList plain
    .ok (d.filter (·.1 != name) ++ [(name, text)])

/-- A written file is read back. -/
theorem read_write {d e : Directory} {path text : String} (h : d.write path text = .ok e) :
    e.read path = .file (Utf8.encode text) := by
  simp only [write] at h
  split at h
  · cases h
  · split at h
    · cases h
    · injection h with h
      subst h
      have miss : ∀ (l : Directory) (name : String),
          (l.filter (·.1 != name) ++ [(name, text)]).lookup name = some text := by
        intro l name
        induction l with
        | nil => simp
        | cons e l ih =>
          obtain ⟨k, t⟩ := e
          by_cases hn : k = name
          · simp [hn, ih]
          · have : (name == k) = false := by simpa using fun h' : name = k => hn h'.symm
            simp [hn, List.lookup_cons, this, ih]
      simp only [read, miss]

end Directory

end Gatehouse
