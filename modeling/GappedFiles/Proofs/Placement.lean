/-
This file says what it means for a place among the blocks to be the place of a
position, and proves that a position determines its place up to one ambiguity.

A place in a payload or in a gap belongs to one block, and so the blocks are split
there: those before it, the block itself, those after it. The only position with
two places is the end of a block, which is also a place in that block's gap with
nothing left of it. A place of that kind is not settled. Every position up to the
end has exactly one settled place, and it is the one that the walk over the blocks
finds.
-/

import GappedFiles.Proofs.Layout

namespace GappedFiles

namespace Place

/-! ### The place of a position -/

/-- The place is one where the byte at `position` is found. -/
inductive Holds (blocks : List Block) (position : Nat) : Place → Prop
  | unset (atStart : position = 0) : Holds blocks position .unset
  | done (atEnd : position = totalLength blocks) : Holds blocks position .done
  | payload (before after : List Block) (block : Block) (offset : Nat)
      (split : blocks = before ++ block :: after) (inside : offset < block.payload.length)
      (sum : position = totalLength before + offset) :
      Holds blocks position (.payload before.length offset block.gap)
  | gap (before after : List Block) (block : Block) (left : UInt64)
      (split : blocks = before ++ block :: after) (bounded : left.toNat ≤ block.gap.toNat)
      (sum : position + left.toNat = totalLength before + block.length) :
      Holds blocks position (.gap before.length left)

/-- A pass over the file has been started. -/
def Opened (place : Place) : Prop :=
  place ≠ .unset

/-- There is something to deliver at the place itself, or nothing anywhere behind it. -/
def Settled : Place → Prop
  | .gap _ left => left ≠ 0
  | .unset | .done | .payload .. => True

instance (place : Place) : Decidable place.Opened :=
  inferInstanceAs (Decidable (place ≠ .unset))

/-- The number of the block under the cursor. -/
def block? : Place → Option Nat
  | .payload block _ _ | .gap block _ => some block
  | .unset | .done => none

/-- The offset of the next byte in the payload of the block under the cursor. -/
def offset? : Place → Option Nat
  | .payload _ offset _ => some offset
  | .unset | .done | .gap .. => none

variable {blocks : List Block} {position : Nat} {place : Place}

theorem Holds.position_le (holds : place.Holds blocks position) :
    position ≤ totalLength blocks := by
  cases holds with
  | unset atStart => omega
  | done atEnd => omega
  | payload before after block offset split inside sum =>
    rw [split, totalLength_append, totalLength_cons, Block.length]
    omega
  | gap before after block left split bounded sum =>
    rw [split, totalLength_append, totalLength_cons]
    omega

/-! ### Entering a block -/

theorem enter_split (before after : List Block) (block : Block) :
    enter (before ++ block :: after) before.length = .payload before.length 0 block.gap := by
  rw [enter, getElem?_split rfl]

/-- The start of a block is its place, provided that payloads are not empty. -/
theorem holds_enter {before after : List Block} (split : blocks = before ++ after)
    (filled : ∀ block ∈ blocks, block.payload ≠ []) :
    (enter blocks before.length).Holds blocks (totalLength before) := by
  subst split
  cases after with
  | nil =>
    rw [List.append_nil, enter_of_le (Nat.le_refl _)]
    exact .done rfl
  | cons block rest =>
    have nonempty : block.payload ≠ [] := filled block (by simp)
    rw [enter_split]
    exact .payload before rest block 0 rfl (List.length_pos_iff.mpr nonempty) rfl

theorem settled_enter (blocks : List Block) (index : Nat) : (enter blocks index).Settled := by
  unfold enter
  split <;> trivial

theorem opened_enter (blocks : List Block) (index : Nat) : (enter blocks index).Opened := by
  unfold enter
  split <;> exact Place.noConfusion

/-! ### The walk over the blocks -/

section Walk

variable {target start : UInt64} (index : Nat) {block : Block} (rest : List Block)

/-- The walk stops at a payload that holds the target. -/
theorem locateFrom_payload (fits : start.toNat + block.length ≤ maxOffset)
    (reached : start.toNat ≤ target.toNat)
    (inside : target.toNat < start.toNat + block.payload.length) :
    locateFrom target index start (block :: rest) =
      .payload index (target.toNat - start.toNat) block.gap := by
  rw [Block.length] at fits
  have payload : (UInt64.ofNat block.payload.length).toNat = block.payload.length :=
    toNat_ofNat_of_le (by omega)
  have payloadEnd : (start + .ofNat block.payload.length).toNat =
      start.toNat + block.payload.length := by
    rw [toNat_add_of_le (by rw [payload]; omega), payload]
  rw [locateFrom]
  rw [if_pos (UInt64.lt_iff_toNat_lt.mpr (by rw [payloadEnd]; exact inside)),
    UInt64.toNat_sub_of_le _ _ (UInt64.le_iff_toNat_le.mpr reached)]

/-- Where the payload ends before the target, the walk looks at the gap. -/
theorem locateFrom_behind_payload (fits : start.toNat + block.length ≤ maxOffset)
    (behind : start.toNat + block.payload.length ≤ target.toNat) :
    ∃ next : UInt64, next.toNat = start.toNat + block.length ∧
      locateFrom target index start (block :: rest) =
        if target < next then .gap index (next - target)
        else locateFrom target (index + 1) next rest := by
  rw [Block.length] at fits
  have payload : (UInt64.ofNat block.payload.length).toNat = block.payload.length :=
    toNat_ofNat_of_le (by omega)
  have payloadEnd : (start + .ofNat block.payload.length).toNat =
      start.toNat + block.payload.length := by
    rw [toNat_add_of_le (by rw [payload]; omega), payload]
  have gapEnd : (start + .ofNat block.payload.length + block.gap).toNat =
      start.toNat + block.length := by
    rw [toNat_add_of_le (by rw [payloadEnd]; omega), payloadEnd, Block.length, Nat.add_assoc]
  refine ⟨_, gapEnd, ?_⟩
  rw [locateFrom]
  rw [if_neg fun inside => ?_]
  have inside := UInt64.lt_iff_toNat_lt.mp inside
  omega

/-- The walk stops at a gap that holds the target. -/
theorem locateFrom_gap (fits : start.toNat + block.length ≤ maxOffset)
    (behind : start.toNat + block.payload.length ≤ target.toNat) {left : UInt64}
    (nonzero : left ≠ 0) (sum : target.toNat + left.toNat = start.toNat + block.length) :
    locateFrom target index start (block :: rest) = .gap index left := by
  obtain ⟨next, boundary, walk⟩ := locateFrom_behind_payload index rest fits behind
  have positive : 0 < left.toNat := by
    refine Nat.pos_of_ne_zero fun zero => nonzero (UInt64.toNat_inj.mp ?_)
    rw [zero]
    rfl
  have before : target < next := UInt64.lt_iff_toNat_lt.mpr (by omega)
  have remaining : next - target = left := by
    refine UInt64.toNat_inj.mp ?_
    rw [UInt64.toNat_sub_of_le _ _ (UInt64.le_of_lt before)]
    omega
  rw [walk, if_pos before, remaining]

/-- The walk passes over a block that ends at the target or before it. -/
theorem locateFrom_behind (fits : start.toNat + block.length ≤ maxOffset)
    (behind : start.toNat + block.length ≤ target.toNat) :
    ∃ next : UInt64, next.toNat = start.toNat + block.length ∧
      locateFrom target index start (block :: rest) = locateFrom target (index + 1) next rest := by
  have payloadBehind : start.toNat + block.payload.length ≤ target.toNat := by
    rw [Block.length] at behind
    omega
  obtain ⟨next, boundary, walk⟩ := locateFrom_behind_payload index rest fits payloadBehind
  have passed : ¬ target < next := fun before => by
    have before := UInt64.lt_iff_toNat_lt.mp before
    omega
  exact ⟨next, boundary, by rw [walk, if_neg passed]⟩

/-- The walk passes over all blocks that end at the target or before it. -/
theorem locateFrom_append {before : List Block}
    (fits : start.toNat + totalLength before ≤ maxOffset)
    (behind : start.toNat + totalLength before ≤ target.toNat) :
    ∃ next : UInt64, next.toNat = start.toNat + totalLength before ∧
      locateFrom target index start (before ++ rest) =
        locateFrom target (index + before.length) next rest := by
  induction before generalizing index start with
  | nil => exact ⟨start, rfl, rfl⟩
  | cons block later inductionHypothesis =>
    rw [totalLength_cons] at fits behind
    obtain ⟨next, boundary, walk⟩ := locateFrom_behind index (later ++ rest)
      (show start.toNat + block.length ≤ maxOffset by omega)
      (show start.toNat + block.length ≤ target.toNat by omega)
    obtain ⟨last, lastBoundary, lastWalk⟩ := inductionHypothesis (index + 1)
      (show next.toNat + totalLength later ≤ maxOffset by omega) (by omega)
    refine ⟨last, by rw [totalLength_cons]; omega, ?_⟩
    rw [List.cons_append, walk, lastWalk, List.length_cons, Nat.add_right_comm, Nat.add_assoc]

theorem locate_append {before : List Block} (fits : totalLength before ≤ maxOffset)
    (behind : totalLength before ≤ target.toNat) :
    ∃ next : UInt64, next.toNat = totalLength before ∧
      locate (before ++ rest) target = locateFrom target before.length next rest := by
  have origin : (0 : UInt64).toNat + totalLength before = totalLength before := by
    rw [UInt64.toNat_zero, Nat.zero_add]
  obtain ⟨next, boundary, walk⟩ := locateFrom_append 0 rest (origin.symm ▸ fits)
    (origin.symm ▸ behind)
  exact ⟨next, boundary.trans origin, by rw [locate, walk, Nat.zero_add]⟩

end Walk

/-- The settled place of a position is the one that the walk finds. -/
theorem Holds.locate_eq (holds : place.Holds blocks position) (opened : place.Opened)
    (settled : place.Settled) (fits : totalLength blocks ≤ maxOffset) :
    locate blocks (.ofNat position) = place := by
  have inFile : (UInt64.ofNat position).toNat = position :=
    toNat_ofNat_of_le (Nat.le_trans holds.position_le fits)
  cases holds with
  | unset => exact absurd rfl opened
  | done atEnd =>
    subst atEnd
    obtain ⟨next, -, walk⟩ := locate_append [] fits (Nat.le_of_eq inFile.symm)
    rw [List.append_nil] at walk
    exact walk
  | payload before after block offset split inside sum =>
    subst split
    rw [totalLength_append, totalLength_cons] at fits
    obtain ⟨next, boundary, walk⟩ := locate_append (block :: after)
      (show totalLength before ≤ maxOffset by omega)
      (show totalLength before ≤ (UInt64.ofNat position).toNat by omega)
    rw [walk, locateFrom_payload _ _ (by omega) (by omega) (by omega), inFile, boundary, sum,
      Nat.add_sub_cancel_left]
  | gap before after block left split bounded sum =>
    subst split
    rw [totalLength_append, totalLength_cons] at fits
    have behind : totalLength before + block.payload.length ≤ position := by
      rw [Block.length] at sum
      omega
    obtain ⟨next, boundary, walk⟩ := locate_append (block :: after)
      (show totalLength before ≤ maxOffset by omega)
      (show totalLength before ≤ (UInt64.ofNat position).toNat by omega)
    rw [walk, locateFrom_gap _ _ (by omega) (by omega) settled (by omega)]

/-- Every position from the end of some blocks up to the end of the file has a settled place. -/
theorem exists_holds {before after : List Block} (split : blocks = before ++ after)
    (fits : totalLength blocks ≤ maxOffset) (reached : totalLength before ≤ position)
    (inFile : position ≤ totalLength blocks) :
    ∃ place : Place, place.Holds blocks position ∧ place.Opened ∧ place.Settled := by
  induction after generalizing before with
  | nil =>
    rw [split, List.append_nil] at inFile
    refine ⟨.done, .done ?_, Place.noConfusion, trivial⟩
    rw [split, List.append_nil]
    exact Nat.le_antisymm inFile reached
  | cons block rest inductionHypothesis =>
    have total : totalLength blocks = totalLength before + (block.length + totalLength rest) := by
      rw [split, totalLength_append, totalLength_cons]
    by_cases inPayload : position < totalLength before + block.payload.length
    · refine ⟨.payload before.length (position - totalLength before) block.gap, ?_,
        Place.noConfusion, trivial⟩
      exact .payload before rest block _ split (by omega) (by omega)
    · by_cases inBlock : position < totalLength before + block.length
      · have left : (UInt64.ofNat (totalLength before + block.length - position)).toNat =
            totalLength before + block.length - position :=
          toNat_ofNat_of_le (by omega)
        refine ⟨.gap before.length (.ofNat (totalLength before + block.length - position)),
          .gap before rest block _ split ?_ ?_, Place.noConfusion, toNat_pos_iff.mp ?_⟩
        · rw [left]
          rw [Block.length]
          omega
        · omega
        · omega
      · refine inductionHypothesis (List.append_cons before block rest ▸ split) ?_
        rw [totalLength_append, totalLength_cons, totalLength_nil]
        omega

/-- The walk finds the place of every position up to the end. -/
theorem holds_locate (fits : totalLength blocks ≤ maxOffset)
    (inFile : position ≤ totalLength blocks) :
    (locate blocks (.ofNat position)).Holds blocks position ∧
      (locate blocks (.ofNat position)).Opened ∧ (locate blocks (.ofNat position)).Settled := by
  obtain ⟨place, holds, opened, settled⟩ := exists_holds (List.nil_append blocks).symm fits
    (Nat.zero_le position) inFile
  rw [holds.locate_eq opened settled fits]
  exact ⟨holds, opened, settled⟩

/-- A place with nothing left of its gap is the start of the next block as well. -/
theorem Holds.next {block : Nat} (holds : (Place.gap block 0).Holds blocks position)
    (filled : ∀ block ∈ blocks, block.payload ≠ []) :
    (enter blocks (block + 1)).Holds blocks position := by
  cases holds with
  | gap before after block left split bounded sum =>
    have entered := holds_enter (List.append_cons before block after ▸ split) filled
    rw [List.length_append, totalLength_append, totalLength_cons, totalLength_nil] at entered
    rw [UInt64.toNat_zero] at sum
    rw [show position = totalLength before + (block.length + 0) by omega]
    exact entered

/-! ### What follows a place -/

theorem pendingLiteral_split (before after : List Block) (block : Block) (offset : Nat)
    (gap : UInt64) :
    (Place.payload before.length offset gap).pendingLiteral (before ++ block :: after) =
      block.payload.drop offset := by
  rw [pendingLiteral, getElem?_split rfl]
  rfl

theorem Holds.pendingGap_le (holds : place.Holds blocks position) :
    place.pendingGap.toNat ≤ totalLength blocks := by
  cases holds with
  | unset => exact Nat.zero_le _
  | done => exact Nat.zero_le _
  | payload before after block offset split inside sum =>
    have gap := gap_le_length block
    rw [split, totalLength_append, totalLength_cons, pendingGap]
    omega
  | gap before after block left split bounded sum =>
    have gap := gap_le_length block
    rw [split, totalLength_append, totalLength_cons, pendingGap]
    omega

/-- From an opened place on, the file goes on with what is pending at the place, its payload
first, and then with the whole blocks behind it. -/
theorem Holds.split_bytes (holds : place.Holds blocks position) (opened : place.Opened)
    (filler : Filler) :
    ∃ before after : List Block, blocks = before ++ after ∧
      position + (place.pendingLiteral blocks).length + place.pendingGap.toNat =
        totalLength before ∧
      (blocks.flatMap (Block.bytes filler)).drop position =
        place.pendingLiteral blocks ++ filler.run place.pendingGap.toNat ++
          after.flatMap (Block.bytes filler) := by
  cases holds with
  | unset => exact absurd rfl opened
  | done atEnd =>
    refine ⟨blocks, [], (List.append_nil _).symm, atEnd, ?_⟩
    rw [atEnd, ← length_flatMap_bytes filler, List.drop_length]
    rfl
  | payload before after block offset split inside sum =>
    subst split
    have pending := pendingLiteral_split before after block offset block.gap
    refine ⟨before ++ [block], after, List.append_cons before block after, ?_, ?_⟩
    · rw [pending, List.length_drop, totalLength_append, totalLength_cons, totalLength_nil,
        Block.length, pendingGap]
      omega
    · have skipped : position = (before.flatMap (Block.bytes filler)).length + offset := by
        rw [length_flatMap_bytes, sum]
      rw [pending, skipped, List.flatMap_append, List.drop_length_add_append,
        List.flatMap_cons, Block.bytes, List.append_assoc,
        List.drop_append_of_le_length (Nat.le_of_lt inside), List.append_assoc, pendingGap]
  | gap before after block left split bounded sum =>
    subst split
    refine ⟨before ++ [block], after, List.append_cons before block after, ?_, ?_⟩
    · rw [totalLength_append, totalLength_cons, totalLength_nil, pendingGap, pendingLiteral,
        List.length_nil]
      omega
    · have skipped : position = (before.flatMap (Block.bytes filler)).length +
          (block.payload.length + (block.gap.toNat - left.toNat)) := by
        rw [length_flatMap_bytes]
        rw [Block.length] at sum
        omega
      have remaining : (filler.run block.gap.toNat).drop (block.gap.toNat - left.toNat) =
          filler.run left.toNat := by
        rw [Filler.run, Filler.run, List.drop_replicate, Nat.sub_sub_self bounded]
      rw [skipped, List.flatMap_append, List.drop_length_add_append, List.flatMap_cons,
        Block.bytes, List.append_assoc, List.drop_length_add_append, List.drop_append_of_le_length,
        remaining]
      · rfl
      · rw [Filler.length_run]
        exact Nat.sub_le _ _

/-! ### Places in a file that grows -/

theorem opened_extendGap (place : Place) (block : Nat) (length : UInt64) :
    (place.extendGap block length).Opened ↔ place.Opened := by
  cases place with
  | unset => exact Iff.rfl
  | done => exact Iff.rfl
  | payload index offset gap =>
    rw [extendGap]
    split <;> exact iff_of_true Place.noConfusion Place.noConfusion
  | gap index left =>
    rw [extendGap]
    split <;> exact iff_of_true Place.noConfusion Place.noConfusion

theorem pendingGap_extendGap_self {block : Nat} (here : place.block? = some block)
    (length : UInt64) : (place.extendGap block length).pendingGap = place.pendingGap + length := by
  cases place with
  | payload index offset after =>
    cases here
    rw [extendGap_payload_self]
    rfl
  | gap index left =>
    cases here
    rw [extendGap_gap_self]
    rfl
  | unset | done => cases here

theorem extendGap_other {block : Nat} (elsewhere : place.block? ≠ some block)
    (length : UInt64) : place.extendGap block length = place := by
  cases place with
  | payload index offset after =>
    exact extendGap_payload_other (fun same => elsewhere (congrArg some same)) offset after length
  | gap index left =>
    exact extendGap_gap_other (fun same => elsewhere (congrArg some same)) left length
  | unset | done => rfl

/-- A block appended behind the others moves no place but the end. -/
theorem Holds.append (holds : place.Holds blocks position) (notDone : place ≠ .done)
    (appended : Block) : place.Holds (blocks ++ [appended]) position := by
  cases holds with
  | unset atStart => exact .unset atStart
  | done atEnd => exact absurd rfl notDone
  | payload before after block offset split inside sum =>
    refine .payload before (after ++ [appended]) block offset ?_ inside sum
    rw [split, List.append_assoc, List.cons_append]
  | gap before after block left split bounded sum =>
    refine .gap before (after ++ [appended]) block left ?_ bounded sum
    rw [split, List.append_assoc, List.cons_append]

/-- A block of a file is its last one, or it comes before the last one. -/
theorem split_last {earlier before after : List Block} {last block : Block}
    (split : earlier ++ [last] = before ++ block :: after) :
    (before = earlier ∧ block = last ∧ after = []) ∨
      ∃ between, after = between ++ [last] ∧ earlier = before ++ block :: between := by
  cases List.eq_nil_or_concat after with
  | inl empty =>
    subst empty
    obtain ⟨sameBefore, sameLast⟩ := List.append_inj' split rfl
    exact Or.inl ⟨sameBefore.symm, (List.singleton_inj.mp sameLast).symm, rfl⟩
  | inr concat =>
    obtain ⟨between, tail, rfl⟩ := concat
    rw [List.concat_eq_append, ← List.cons_append, ← List.append_assoc] at split
    obtain ⟨sameEarlier, sameLast⟩ := List.append_inj' split rfl
    refine Or.inr ⟨between, ?_, sameEarlier⟩
    rw [List.concat_eq_append, sameLast]

/-- Filler that joins the last gap is before a cursor on the last block and concerns no other,
except that a cursor at the end would no longer be there. -/
theorem Holds.extend {earlier : List Block} {last : Block} {length : UInt64}
    (holds : place.Holds (earlier ++ [last]) position) (notDone : place ≠ .done)
    (fits : last.gap.toNat + length.toNat ≤ maxOffset) :
    (place.extendGap earlier.length length).Holds (earlier ++ [last.extendGap length])
      position := by
  have grown : (last.extendGap length).gap.toNat = last.gap.toNat + length.toNat :=
    toNat_add_of_le fits
  cases holds with
  | unset atStart => exact .unset atStart
  | done atEnd => exact absurd rfl notDone
  | payload before after block offset split inside sum =>
    obtain ⟨rfl, rfl, rfl⟩ | ⟨between, rfl, rfl⟩ := split_last split
    · rw [extendGap_payload_self]
      exact .payload before [] (block.extendGap length) offset rfl inside sum
    · rw [extendGap_payload_other (by rw [List.length_append, List.length_cons]; omega)]
      refine .payload before (between ++ [last.extendGap length]) block offset ?_ inside sum
      rw [List.append_assoc, List.cons_append]
  | gap before after block left split bounded sum =>
    obtain ⟨rfl, rfl, rfl⟩ | ⟨between, rfl, rfl⟩ := split_last split
    · have more : (left + length).toNat = left.toNat + length.toNat :=
        toNat_add_of_le (by omega)
      rw [extendGap_gap_self]
      refine .gap before [] (block.extendGap length) _ rfl ?_ ?_
      · omega
      · rw [length_extendGap fits]
        omega
    · rw [extendGap_gap_other (by rw [List.length_append, List.length_cons]; omega)]
      refine .gap before (between ++ [last.extendGap length]) block left ?_ bounded sum
      rw [List.append_assoc, List.cons_append]

/-- A cursor at the end comes to the filler that joins the last gap. -/
theorem holds_extended (earlier : List Block) {last : Block} {length : UInt64}
    (fits : last.gap.toNat + length.toNat ≤ maxOffset) :
    (Place.gap earlier.length length).Holds (earlier ++ [last.extendGap length])
      (totalLength (earlier ++ [last])) := by
  have grown : (last.extendGap length).gap.toNat = last.gap.toNat + length.toNat :=
    toNat_add_of_le fits
  refine .gap earlier [] (last.extendGap length) length rfl ?_ ?_
  · omega
  · rw [length_extendGap fits, totalLength_append, totalLength_cons, totalLength_nil]
    omega

/-- A cursor at the end comes to the block that is appended there. -/
theorem holds_appended (blocks : List Block) {first : UInt8} {rest : List UInt8} :
    (Place.payload blocks.length 0 0).Holds (blocks ++ [⟨first :: rest, 0⟩])
      (totalLength blocks) :=
  .payload blocks [] ⟨first :: rest, 0⟩ 0 rfl (Nat.succ_pos _) rfl

end Place

end GappedFiles
