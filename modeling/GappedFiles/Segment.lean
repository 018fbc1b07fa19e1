/-
This file defines segments: the pieces in which bytes enter and leave a gapped
file. A segment is either bytes that are kept as they are or a run of filler,
known by its length only. Writing takes segments and reading hands them out, so
a long run costs no more than a short one until somebody asks for its bytes.
-/

import GappedFiles.Filler

namespace GappedFiles

/-! ### Segments -/

/-- A piece of a file. -/
inductive Segment
  /-- Bytes that are kept and reproduced as they are. -/
  | literal (bytes : List UInt8)
  /-- A run of filler, known by its length. -/
  | filler (length : UInt64)
  deriving DecidableEq, Inhabited

namespace Segment

/-- How many bytes the segment stands for. -/
def length : Segment → Nat
  | .literal bytes => bytes.length
  | .filler length => length.toNat

/-- Whether the segment stands for no byte at all. -/
def isEmpty (segment : Segment) : Bool :=
  segment.length == 0

/-- The bytes a segment stands for, where runs are made of the given filler. -/
def expand (filler : Filler) : Segment → List UInt8
  | .literal bytes => bytes
  | .filler length => filler.run length.toNat

/-- The first bytes of a segment: `room` of them, or all if there are no more. -/
def take (room : Nat) : Segment → Segment
  | .literal bytes => .literal (bytes.take room)
  | .filler length => .filler (.ofNat (min room length.toNat))

/-! ### Lengths and bytes agree -/

@[simp] theorem length_literal (bytes : List UInt8) : (literal bytes).length = bytes.length :=
  rfl

@[simp] theorem length_filler (length : UInt64) : (Segment.filler length).length = length.toNat :=
  rfl

@[simp] theorem length_expand (filler : Filler) (segment : Segment) :
    (segment.expand filler).length = segment.length := by
  cases segment with
  | literal bytes => rfl
  | filler length => exact filler.length_run _

/-- Cutting a segment short cuts its bytes short at the same place. -/
@[simp] theorem expand_take (filler : Filler) (room : Nat) (segment : Segment) :
    (segment.take room).expand filler = (segment.expand filler).take room := by
  cases segment with
  | literal bytes => rfl
  | filler length =>
    have bound : min room length.toNat < UInt64.size :=
      Nat.lt_of_le_of_lt (Nat.min_le_right _ _) length.toNat_lt
    show filler.run (UInt64.ofNat (min room length.toNat)).toNat =
      (filler.run length.toNat).take room
    rw [UInt64.toNat_ofNat_of_lt' bound, Filler.run, Filler.run, List.take_replicate]

end Segment

end GappedFiles
