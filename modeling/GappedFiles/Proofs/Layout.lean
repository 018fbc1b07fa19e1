/-
This file measures the layout of a gapped file. The blocks of a file lie one
behind the other, so the offset at which a block begins is the sum of the
lengths of the blocks before it, and the sum of all lengths is the size. These
sums are natural numbers and never wrap; the file keeps them in words. As long as
a sum is an offset that a file can have, the word and the number agree, and
everything said about offsets afterwards is said about numbers.
-/

import GappedFiles.File.Basic

namespace GappedFiles

/-! ### Words that hold offsets -/

/-- A sum of words that is an offset is the sum of the numbers. -/
theorem toNat_add_of_le {first second : UInt64} (fits : first.toNat + second.toNat ≤ maxOffset) :
    (first + second).toNat = first.toNat + second.toNat := by
  rw [UInt64.toNat_add]
  rw [maxOffset] at fits
  omega

theorem toNat_ofNat_of_le {offset : Nat} (fits : offset ≤ maxOffset) :
    (UInt64.ofNat offset).toNat = offset := by
  refine UInt64.toNat_ofNat_of_lt' ?_
  rw [maxOffset] at fits
  exact Nat.lt_of_le_of_lt fits (by decide)

theorem toNat_pos_iff {word : UInt64} : 0 < word.toNat ↔ word ≠ 0 :=
  UInt64.lt_iff_toNat_lt.symm.trans UInt64.pos_iff_ne_zero

theorem toNat_length_drop {bytes : List UInt8} (start : Nat) (fits : bytes.length ≤ maxOffset) :
    (UInt64.ofNat (bytes.drop start).length).toNat = bytes.length - start := by
  rw [List.length_drop]
  exact toNat_ofNat_of_le (Nat.le_trans (Nat.sub_le _ _) fits)

/-- A word that holds an offset is the same number when it is read with a sign. -/
theorem toInt_toInt64_of_le {offset : UInt64} (fits : offset.toNat ≤ maxOffset) :
    offset.toInt64.toInt = offset.toNat := by
  rw [← UInt64.ofNat_toNat (x := offset), UInt64.toInt64_ofNat']
  rw [Int64.toInt_ofNat_of_lt, UInt64.ofNat_toNat]
  rw [maxOffset] at fits
  omega

/-! ### Lengths of blocks laid end to end -/

/-- The number of bytes that some blocks stand for. -/
def totalLength (blocks : List Block) : Nat :=
  blocks.foldr (fun block length => block.length + length) 0

/-- The offset at which the block with the given number begins, which is the size of the file
where there is no such block. -/
def startOf (blocks : List Block) (index : Nat) : Nat :=
  totalLength (blocks.take index)

@[simp] theorem totalLength_nil : totalLength [] = 0 :=
  rfl

@[simp] theorem totalLength_cons (block : Block) (rest : List Block) :
    totalLength (block :: rest) = block.length + totalLength rest :=
  rfl

@[simp] theorem totalLength_append (first second : List Block) :
    totalLength (first ++ second) = totalLength first + totalLength second := by
  induction first with
  | nil => rw [List.nil_append, totalLength_nil, Nat.zero_add]
  | cons block rest inductionHypothesis =>
    rw [List.cons_append, totalLength_cons, totalLength_cons, inductionHypothesis,
      Nat.add_assoc]

/-- The bytes of some blocks are as many as the blocks stand for. -/
theorem length_flatMap_bytes (filler : Filler) (blocks : List Block) :
    (blocks.flatMap (Block.bytes filler)).length = totalLength blocks := by
  induction blocks with
  | nil => rfl
  | cons block rest inductionHypothesis =>
    rw [List.flatMap_cons, List.length_append, Block.length_bytes, inductionHypothesis,
      totalLength_cons]

theorem startOf_length (blocks : List Block) :
    startOf blocks blocks.length = totalLength blocks := by
  rw [startOf, List.take_length]

theorem startOf_append (before after : List Block) :
    startOf (before ++ after) before.length = totalLength before := by
  rw [startOf, List.take_left]

theorem startOf_succ_append (before after : List Block) (block : Block) :
    startOf (before ++ block :: after) (before.length + 1) = totalLength before + block.length := by
  have boundary := startOf_append (before ++ [block]) after
  rw [List.length_append, totalLength_append, ← List.append_cons] at boundary
  exact boundary

/-- The block where blocks are split has the number of blocks before it. -/
theorem getElem?_split {blocks before after : List Block} {block : Block}
    (split : blocks = before ++ block :: after) : blocks[before.length]? = some block := by
  rw [split, List.getElem?_append_right (Nat.le_refl _), Nat.sub_self, List.getElem?_cons_zero]

/-- Blocks can be split at every block there is. -/
theorem exists_split {blocks : List Block} {index : Nat} {block : Block}
    (found : blocks[index]? = some block) :
    ∃ before after : List Block, blocks = before ++ block :: after ∧ before.length = index := by
  obtain ⟨inFile, rfl⟩ := List.getElem?_eq_some_iff.mp found
  refine ⟨blocks.take index, blocks.drop (index + 1), ?_,
    List.length_take_of_le (Nat.le_of_lt inFile)⟩
  rw [← List.drop_eq_getElem_cons inFile, List.take_append_drop]

/-! ### Growing the layout -/

/-- A gap that takes in more filler makes its block so much longer. -/
theorem length_extendGap {block : Block} {length : UInt64}
    (fits : block.gap.toNat + length.toNat ≤ maxOffset) :
    (block.extendGap length).length = block.length + length.toNat := by
  rw [Block.length, Block.length, Block.extendGap, toNat_add_of_le fits, Nat.add_assoc]

/-- A gap is part of its block. -/
theorem gap_le_length (block : Block) : block.gap.toNat ≤ block.length :=
  Nat.le_add_left _ _

/-- Blocks whose payloads are not empty are no more than their bytes. -/
theorem length_le_totalLength {blocks : List Block}
    (filled : ∀ block ∈ blocks, block.payload ≠ []) : blocks.length ≤ totalLength blocks := by
  induction blocks with
  | nil => exact Nat.le_refl 0
  | cons block rest inductionHypothesis =>
    have later := inductionHypothesis fun other member =>
      filled other (List.mem_cons_of_mem _ member)
    have first := List.length_pos_iff.mpr (filled block List.mem_cons_self)
    rw [List.length_cons, totalLength_cons, Block.length]
    omega

end GappedFiles
