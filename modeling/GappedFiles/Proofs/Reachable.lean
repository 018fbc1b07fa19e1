/-
This file names the files that calls lead to and proves that the invariant holds of
them, because the four operations on which all calls are built keep it.
-/

import GappedFiles.Proofs.Reading

namespace GappedFiles

/-! ### Files that calls lead to -/

theorem wellFormed_kept : Kept File.WellFormed where
  write := fun _ segment wellFormed => wellFormed.write segment
  startPass := fun _ wellFormed => wellFormed.startPass
  read := fun _ wellFormed => wellFormed.read
  seek := fun _ offset origin wellFormed => wellFormed.seek offset origin

/-- Some run of calls on an empty file leads to the file. -/
def File.Reachable (file : File) : Prop :=
  ∃ (filler : Filler) (calls : List Call), file = (File.empty filler).runAll calls

theorem File.Reachable.wellFormed {file : File} (reachable : file.Reachable) :
    file.WellFormed := by
  obtain ⟨filler, calls, rfl⟩ := reachable
  exact wellFormed_kept.runAll calls _ (File.wellFormed_empty filler)

theorem File.Reachable.runAll {file : File} (reachable : file.Reachable) (calls : List Call) :
    (file.runAll calls).Reachable := by
  obtain ⟨filler, before, rfl⟩ := reachable
  exact ⟨filler, before ++ calls, (File.runAll_append _ _ _).symm⟩

end GappedFiles
