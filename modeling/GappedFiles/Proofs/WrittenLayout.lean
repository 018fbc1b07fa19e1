/-
This file proves that the layout of a file is made by the writes that were
accepted, and by nothing else.

All opening, reading and seeking can be struck out of a run without a trace in
its writes. What is left is a list of accepted segments, and the blocks are read
off that list: each literal that is not empty makes one, and the filler up to the
next of them is its gap.
-/

import GappedFiles.Proofs.Growth
import Mathlib.Algebra.Ring.Nat

namespace GappedFiles

/-! ### The layout of what was appended -/

/-- A segment that makes a block: a literal that is not empty. -/
def Segment.makesBlock : Segment → Bool
  | .literal (_ :: _) => true
  | .literal [] | .filler _ => false

/-- How much filler there is before the first literal that is not empty. -/
def leadingFiller : List Segment → Nat
  | [] => 0
  | .filler length :: rest => length.toNat + leadingFiller rest
  | .literal [] :: rest => leadingFiller rest
  | .literal (_ :: _) :: _ => 0

/-- The literals that are not empty, each with the length of the filler between it and the next
of them. -/
def layoutOf : List Segment → List (List UInt8 × Nat)
  | [] => []
  | .filler _ :: rest => layoutOf rest
  | .literal [] :: rest => layoutOf rest
  | .literal (first :: later) :: rest => (first :: later, leadingFiller rest) :: layoutOf rest

/-- The payloads of the blocks, each with the length of its gap. -/
def File.layout (file : File) : List (List UInt8 × Nat) :=
  file.blocks.map fun block => (block.payload, block.gap.toNat)

section Layout

variable {segments : List Segment}

/-- The blocks of a layout are the literals that make them. -/
theorem map_literal_layoutOf (segments : List Segment) :
    (layoutOf segments).map (fun stretch => Segment.literal stretch.1) =
      segments.filter Segment.makesBlock := by
  induction segments with
  | nil => rfl
  | cons segment rest inductionHypothesis =>
    cases segment with
    | filler length => exact inductionHypothesis
    | literal bytes =>
      cases bytes with
      | nil => exact inductionHypothesis
      | cons first later =>
        exact congrArg (Segment.literal (first :: later) :: ·) inductionHypothesis

theorem leadingFiller_concat_literal (segments : List Segment) (bytes : List UInt8) :
    leadingFiller (segments ++ [.literal bytes]) = leadingFiller segments := by
  induction segments with
  | nil => cases bytes <;> rfl
  | cons segment rest inductionHypothesis =>
    cases segment with
    | filler length => exact congrArg (length.toNat + ·) inductionHypothesis
    | literal others =>
      cases others with
      | nil => exact inductionHypothesis
      | cons first later => rfl

/-- A literal at the end makes a block without a gap, unless it is empty. -/
theorem layoutOf_concat_literal (segments : List Segment) (bytes : List UInt8) :
    layoutOf (segments ++ [.literal bytes]) =
      layoutOf segments ++ layoutOf [.literal bytes] := by
  induction segments with
  | nil => rfl
  | cons segment rest inductionHypothesis =>
    cases segment with
    | filler length => exact inductionHypothesis
    | literal others =>
      cases others with
      | nil => exact inductionHypothesis
      | cons first later =>
        show (first :: later, leadingFiller (rest ++ [.literal bytes])) ::
          layoutOf (rest ++ [.literal bytes]) = _
        rw [leadingFiller_concat_literal, inductionHypothesis]
        rfl

/-- Filler at the end leads only where no block comes before it. -/
theorem leadingFiller_concat_filler (segments : List Segment) (length : UInt64) :
    leadingFiller (segments ++ [.filler length]) =
      leadingFiller segments + if layoutOf segments = [] then length.toNat else 0 := by
  induction segments with
  | nil => exact Nat.add_comm _ _
  | cons segment rest inductionHypothesis =>
    cases segment with
    | filler other =>
      show other.toNat + leadingFiller (rest ++ [.filler length]) =
        other.toNat + leadingFiller rest + if layoutOf rest = [] then length.toNat else 0
      rw [inductionHypothesis, Nat.add_assoc]
    | literal bytes =>
      cases bytes with
      | nil => exact inductionHypothesis
      | cons first later => rfl

/-- Filler at the end leaves no trace where there is no block. -/
theorem layoutOf_concat_filler_of_nil (length : UInt64) (noBlock : layoutOf segments = []) :
    layoutOf (segments ++ [.filler length]) = [] := by
  induction segments with
  | nil => rfl
  | cons segment rest inductionHypothesis =>
    cases segment with
    | filler other => exact inductionHypothesis noBlock
    | literal bytes =>
      cases bytes with
      | nil => exact inductionHypothesis noBlock
      | cons first later => cases noBlock

/-- Filler at the end joins the gap of the last block. -/
theorem layoutOf_concat_filler {earlier : List (List UInt8 × Nat)} {payload : List UInt8}
    {gap : Nat} (length : UInt64) (split : layoutOf segments = earlier ++ [(payload, gap)]) :
    layoutOf (segments ++ [.filler length]) = earlier ++ [(payload, gap + length.toNat)] := by
  induction segments generalizing earlier with
  | nil => exact absurd split.symm (List.concat_ne_nil _ _)
  | cons segment rest inductionHypothesis =>
    cases segment with
    | filler other => exact inductionHypothesis split
    | literal bytes =>
      cases bytes with
      | nil => exact inductionHypothesis split
      | cons first later =>
        change (first :: later, leadingFiller rest) :: layoutOf rest = _ at split
        show (first :: later, leadingFiller (rest ++ [.filler length])) ::
          layoutOf (rest ++ [.filler length]) = _
        rw [leadingFiller_concat_filler]
        -- The filler is for this block only if no other block comes after it.
        cases earlier with
        | nil =>
          obtain ⟨head, noBlock⟩ := List.cons.inj split
          rw [layoutOf_concat_filler_of_nil length noBlock, if_pos noBlock]
          obtain ⟨rfl, rfl⟩ := Prod.mk.inj head
          rfl
        | cons block before =>
          obtain ⟨head, tail⟩ := List.cons.inj split
          have someBlock : layoutOf rest ≠ [] := by
            rw [tail]
            exact List.concat_ne_nil _ _
          rw [inductionHypothesis tail, if_neg someBlock, ← head]
          rfl

end Layout

/-- The blocks are those of what was appended, and the size is its length. -/
theorem layout_grown :
    Grown fun file segments =>
      file.layout = layoutOf segments ∧
        file.size.toNat = (segments.map Segment.length).sum where
  moved := by
    rintro file after segments moved laid
    rw [File.Moved] at moved
    rw [moved]
    exact laid
  accepted := by
    rintro file segments segment count wellFormed accepted ⟨layout, size⟩
    have written := file.write_written segment
    generalize file.write segment = outcome at written accepted ⊢
    rw [List.map_append, List.sum_append, ← size, List.map_singleton, List.sum_singleton]
    cases written with
    | tooLong => cases accepted
    | unheld => cases accepted
    | extended earlier last length fits split =>
      have gap : (last.gap + length).toNat = last.gap.toNat + length.toNat :=
        toNat_add_of_le (wellFormed.gap_le fits split)
      refine ⟨?_, toNat_add_of_le fits⟩
      rw [File.layout, split, List.map_append] at layout
      show ((file.extendLast last length).blocks.map _) = _
      rw [File.extendLast_blocks length split, layoutOf_concat_filler length layout.symm,
        List.map_append, List.map_singleton, ← gap]
      rfl
    | ignored =>
      rw [layoutOf_concat_literal]
      exact ⟨by rw [← layout]; exact (List.append_nil _).symm, rfl⟩
    | appended first rest fits =>
      rw [layoutOf_concat_literal, ← layout]
      exact ⟨List.map_append, File.size_appendBlock fits⟩

/-- The literals that make blocks are as many as the blocks, and as long as their payloads. -/
theorem File.counts_of_layout {file : File} {segments : List Segment}
    (layout : file.layout = layoutOf segments) :
    file.blockCount = (segments.filter Segment.makesBlock).length ∧
      file.retainedBytes = ((segments.filter Segment.makesBlock).map Segment.length).sum := by
  rw [← map_literal_layoutOf, ← layout, File.layout, List.map_map]
  refine ⟨(List.length_map _).symm, ?_⟩
  rw [List.map_map, File.retainedBytes]
  induction file.blocks with
  | nil => rfl
  | cons block rest inductionHypothesis =>
    rw [List.foldr_cons, inductionHypothesis, List.map_cons, List.sum_cons]
    rfl

/-! ### Runs without their reads -/

/-- What a call returns and reports, and what can be asked about the layout afterwards. -/
structure LayoutReport where
  result : Except CallError Answer
  events : List Event
  blocks : List Block
  size : UInt64
  blockCount : Nat
  retainedBytes : Nat

/-- What a call's outcome shows about the layout. -/
def Outcome.layoutReport (outcome : Outcome File CallError Answer) : LayoutReport where
  result := outcome.result
  events := outcome.events
  blocks := outcome.state.blocks
  size := outcome.state.size
  blockCount := outcome.state.blockCount
  retainedBytes := outcome.state.retainedBytes

/-- Among calls made one after the other, what those that do not read show about the layout. -/
def File.layoutReports (file : File) (calls : List Call) : List LayoutReport :=
  ((calls.zip (file.history calls)).filter fun entry => !entry.1.reads).map
    fun entry => entry.2.layoutReport

namespace File

variable {first second : File}

theorem Moved.layoutReport_eq {before after : Outcome File CallError Answer}
    (alike : Outcome.Alike Moved before after) : before.layoutReport = after.layoutReport := by
  have moved := alike.state
  rw [Moved] at moved
  rw [Outcome.layoutReport, Outcome.layoutReport, alike.result, alike.events, moved]
  rfl

/-- Calls that read can be struck out of a run: the others show the same about the layout as when
they are made alone, and the files differ at most in the cursor in the end. -/
theorem Moved.strike (moved : first.Moved second) (calls : List Call) :
    first.layoutReports calls =
        (second.history (calls.filter fun call => !call.reads)).map Outcome.layoutReport ∧
      (first.runAll calls).Moved (second.runAll (calls.filter fun call => !call.reads)) := by
  induction calls generalizing first second with
  | nil => exact ⟨rfl, moved⟩
  | cons call rest inductionHypothesis =>
    rw [layoutReports, history, List.zip_cons_cons, List.filter_cons, List.filter_cons, runAll_cons]
    dsimp only
    -- The second file does not see a call that reads, and the first is only moved by it.
    cases reads : call.reads with
    | true => exact inductionHypothesis ((first.moved_of_reads reads).symm.trans moved)
    | false =>
      have alike := moved.run reads
      obtain ⟨reports, final⟩ := inductionHypothesis alike.state
      refine ⟨?_, final⟩
      show (call.run first).layoutReport :: (call.run first).state.layoutReports rest = _
      rw [layoutReport_eq alike, reports]
      rfl

end File

/-- The layout depends only on the writes. Strike every opening, read and seek out of a run: the
other calls return and report the same and show the same blocks and sizes after each of them, and
the file has the same blocks in the end. These are, in order, one for each literal that was accepted
and is not empty, with its bytes, and the gap of each is the filler accepted between it and the
next; the size is the length of everything that was accepted. -/
theorem layout_of_writes (filler : Filler) (calls : List Call) :
    let file := (File.empty filler).runAll calls
    let written := calls.filter fun call => !call.reads
    let alone := (File.empty filler).runAll written
    let segments := (File.empty filler).accepted calls
    let literals := segments.filter Segment.makesBlock
    ((File.empty filler).layoutReports calls =
        ((File.empty filler).history written).map Outcome.layoutReport ∧
      file.blocks = alone.blocks ∧ file.size = alone.size ∧
      file.blockCount = alone.blockCount ∧ file.retainedBytes = alone.retainedBytes) ∧
      file.layout = layoutOf segments ∧
      file.blockCount = literals.length ∧
      file.retainedBytes = (literals.map Segment.length).sum ∧
      file.size.toNat = (segments.map Segment.length).sum := by
  intro file written alone segments literals
  obtain ⟨reports, moved⟩ := (File.Moved.refl (File.empty filler)).strike calls
  have start : (File.empty filler).layout = layoutOf [] ∧
      (File.empty filler).size.toNat = (List.map Segment.length []).sum := ⟨rfl, rfl⟩
  obtain ⟨layout, size⟩ := layout_grown.runAll calls (File.wellFormed_empty filler) start
  obtain ⟨count, retained⟩ := File.counts_of_layout layout
  have same : alone = { file with cursor := alone.cursor } := moved
  refine ⟨⟨reports, ?_⟩, layout, count, retained, size⟩
  rw [same]
  exact ⟨rfl, rfl, rfl, rfl⟩

end GappedFiles
