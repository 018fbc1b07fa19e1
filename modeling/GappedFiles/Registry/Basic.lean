/-
This file defines the registry: files under names. All of them are filled with
the same filler. A file comes into being when it is touched or when something is
appended under a name that has none, and in the second case only if the first
write succeeds, so that a refused write leaves no empty file behind.

The files are held in an extensional map: two registries with the same files
under the same names are the same registry, whatever happened before.
-/

import GappedFiles.File.Write
import Std.Data.ExtTreeMap

namespace GappedFiles

/-! ### Registries -/

/-- Files under names, all with the same filler. -/
structure Registry where
  /-- What the gaps of all files are filled with. -/
  filler : Filler
  /-- The files by name. -/
  files : Std.ExtTreeMap String File

namespace Registry

/-- The registry without files. -/
def empty (filler : Filler) : Registry where
  filler
  files := ∅

/-- The file under a name, if there is one. -/
def find? (registry : Registry) (path : String) : Option File :=
  registry.files[path]?

/-- The registry with a file put under a name, in the place of the one that was there. -/
def store (registry : Registry) (path : String) (file : File) : Registry :=
  { registry with files := registry.files.insert path file }

/-- The registry without the file under a name. -/
def discard (registry : Registry) (path : String) : Registry :=
  { registry with files := registry.files.erase path }

/-! ### Operations -/

/-- An operation on a name, refused where the name is empty. -/
def guarded {Result : Type} (registry : Registry) (path : String)
    (operation : Outcome Registry FileError Result) : Outcome Registry FileError Result :=
  if path = "" then .failure registry (.invalidPath "Path cannot be empty") else operation

/-- Makes sure that there is a file under a name. -/
def touch (registry : Registry) (path : String) : Outcome Registry FileError Unit :=
  registry.guarded path <|
    match registry.find? path with
    | some _ => .success registry () []
    | none => .success (registry.store path (.empty registry.filler)) () []

/-- Appends a segment to the file under a name. Where there is none, a new file is put there,
unless it refuses the segment. -/
def append (registry : Registry) (path : String) (segment : Segment) :
    Outcome Registry FileError Nat :=
  registry.guarded path <|
    match registry.find? path with
    | some file => (file.write segment).mapState (registry.store path)
    | none =>
      let created := (File.empty registry.filler).write segment
      match created.result with
      | .ok _ => created.mapState (registry.store path)
      | .error _ => created.mapState fun _ => registry

/-- Appends bytes that are kept as they are to the file under a name. -/
def writeLiteral (registry : Registry) (path : String) (bytes : List UInt8) :
    Outcome Registry FileError Nat :=
  registry.append path (.literal bytes)

/-- Appends a run of filler to the file under a name. -/
def writeFiller (registry : Registry) (path : String) (length : UInt64) :
    Outcome Registry FileError Nat :=
  registry.append path (.filler length)

/-- The size of the file under a name. -/
def length (registry : Registry) (path : String) : Outcome Registry FileError UInt64 :=
  registry.guarded path <|
    match registry.find? path with
    | some file => .success registry file.size []
    | none => .failure registry (.fileNotFound path)

/-- Performs an action on the file under a name. What the action leaves behind is kept even
where it is refused. -/
def withFile {Result : Type} (registry : Registry) (path : String)
    (action : File → Outcome File FileError Result) : Outcome Registry FileError Result :=
  registry.guarded path <|
    match registry.find? path with
    | some file => (action file).mapState (registry.store path)
    | none => .failure registry (.fileNotFound path)

/-- Takes the file under a name out of the registry and returns it. -/
def remove (registry : Registry) (path : String) : Outcome Registry FileError File :=
  registry.guarded path <|
    match registry.find? path with
    | some file => .success (registry.discard path) file []
    | none => .failure registry (.fileNotFound path)

/-! ### Looking up after a change -/

@[simp] theorem find?_empty (filler : Filler) (path : String) :
    (empty filler).find? path = none :=
  Std.ExtTreeMap.getElem?_empty

theorem find?_store (registry : Registry) (path other : String) (file : File) :
    (registry.store path file).find? other =
      if path = other then some file else registry.find? other := by
  rw [find?, store, Std.ExtTreeMap.getElem?_insert]
  simp only [Std.LawfulEqCmp.compare_eq_iff_eq]
  rfl

theorem find?_discard (registry : Registry) (path other : String) :
    (registry.discard path).find? other =
      if path = other then none else registry.find? other := by
  rw [find?, discard, Std.ExtTreeMap.getElem?_erase]
  simp only [Std.LawfulEqCmp.compare_eq_iff_eq]
  rfl

/-- A registry is its filler and what is found under each name. -/
theorem eq_of_find? {first second : Registry} (sameFiller : first.filler = second.filler)
    (sameFiles : ∀ path, first.find? path = second.find? path) : first = second := by
  obtain ⟨filler, firstFiles⟩ := first
  obtain ⟨_, secondFiles⟩ := second
  have same : firstFiles = secondFiles := Std.ExtTreeMap.ext_getElem? sameFiles
  subst sameFiller
  rw [same]

end Registry

end GappedFiles
