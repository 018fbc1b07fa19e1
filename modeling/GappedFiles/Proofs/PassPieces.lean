/-
This file says exactly which pieces a pass delivers, and proves that it ends.

The pieces that are still to come are told by the blocks, the position and the
size of the filler buffer alone: what is left of the payload under the position,
then what is left of the gap behind it, in full buffers and a last piece that may
be shorter, and then every later block in the same way. A read delivers the first
of these pieces and leaves the others to come. So as many reads as there are pieces
deliver all of them, the next one finds the end, and from then on nothing changes.
-/

import GappedFiles.Proofs.Canonical
import GappedFiles.Proofs.Exact
import GappedFiles.Proofs.Landing

namespace GappedFiles

/-! ### The pieces of a gap -/

/-- How many buffers a gap takes, the last of which need not be full. -/
def buffersFor (buffer gap : Nat) : Nat :=
  (gap + buffer - 1) / buffer

/-- The pieces of a gap: full buffers, and then as much as they leave. -/
def gapPieces (buffer : UInt64) (gap : Nat) : List Segment :=
  if gap = 0 then []
  else
    let full := buffersFor buffer.toNat gap - 1
    List.replicate full (.filler buffer) ++ [.filler (.ofNat (gap - buffer.toNat * full))]

section Gaps

variable {buffer gap : Nat}

theorem buffersFor_zero (positive : 0 < buffer) : buffersFor buffer 0 = 0 :=
  Nat.div_eq_of_lt (by omega)

theorem buffersFor_of_le (nonzero : gap ≠ 0) (within : gap ≤ buffer) : buffersFor buffer gap = 1 :=
  Nat.div_eq_of_lt_le (by omega) (by omega)

/-- A gap that is longer than the buffer takes one buffer more than what is left behind it. -/
theorem buffersFor_of_lt (positive : 0 < buffer) (longer : buffer < gap) :
    buffersFor buffer gap = buffersFor buffer (gap - buffer) + 1 := by
  have cut : gap + buffer - 1 = gap - buffer + buffer - 1 + buffer := by omega
  rw [buffersFor, cut, Nat.add_div_right _ positive]
  rfl

theorem buffersFor_pos (positive : 0 < buffer) (nonzero : gap ≠ 0) :
    0 < buffersFor buffer gap :=
  Nat.div_pos (by omega) positive

end Gaps

section Buffers

variable {buffer : UInt64} {gap : Nat}

@[simp] theorem gapPieces_zero (buffer : UInt64) : gapPieces buffer 0 = [] :=
  rfl

theorem gapPieces_of_le (nonzero : gap ≠ 0) (within : gap ≤ buffer.toNat) :
    gapPieces buffer gap = [.filler (.ofNat gap)] := by
  rw [gapPieces, if_neg nonzero, buffersFor_of_le nonzero within, Nat.sub_self]
  rfl

/-- A gap that is longer than the buffer begins with a full one. -/
theorem gapPieces_of_lt (positive : 0 < buffer.toNat) (longer : buffer.toNat < gap) :
    gapPieces buffer gap = .filler buffer :: gapPieces buffer (gap - buffer.toNat) := by
  have further := buffersFor_pos positive (show gap - buffer.toNat ≠ 0 by omega)
  obtain ⟨count, more⟩ := Nat.exists_eq_add_of_lt further
  rw [Nat.zero_add] at more
  have rest : gap - buffer.toNat * (count + 1) = gap - buffer.toNat - buffer.toNat * count := by
    rw [Nat.mul_succ, Nat.add_comm, Nat.sub_add_eq]
  rw [gapPieces, gapPieces, if_neg (by omega), if_neg (by omega), buffersFor_of_lt positive longer,
    more, Nat.add_sub_cancel, Nat.add_sub_cancel]
  dsimp only
  rw [rest]
  rfl

theorem length_gapPieces (positive : 0 < buffer.toNat) (gap : Nat) :
    (gapPieces buffer gap).length = buffersFor buffer.toNat gap := by
  by_cases nothing : gap = 0
  · rw [nothing, gapPieces_zero, buffersFor_zero positive, List.length_nil]
  · have some := buffersFor_pos positive nothing
    rw [gapPieces, if_neg nothing, List.length_append, List.length_replicate,
      List.length_singleton, Nat.sub_add_cancel some]

/-- No piece of a gap is empty or longer than the buffer. -/
theorem mem_gapPieces (positive : 0 < buffer.toNat) {piece : Segment}
    (member : piece ∈ gapPieces buffer gap) :
    ∃ length : UInt64, piece = .filler length ∧ 0 < length ∧ length ≤ buffer := by
  induction gap using Nat.strongRecOn with
  | ind gap inductionHypothesis =>
    by_cases nothing : gap = 0
    · rw [nothing] at member
      cases member
    · by_cases within : gap ≤ buffer.toNat
      · have word : (UInt64.ofNat gap).toNat = gap :=
          UInt64.toNat_ofNat_of_lt' (Nat.lt_of_le_of_lt within buffer.toNat_lt)
        rw [gapPieces_of_le nothing within, List.mem_singleton] at member
        refine ⟨_, member, UInt64.lt_iff_toNat_lt.mpr ?_, UInt64.le_iff_toNat_le.mpr ?_⟩
        · rw [word]
          exact Nat.pos_of_ne_zero nothing
        · rw [word]
          exact within
      · rw [gapPieces_of_lt positive (Nat.lt_of_not_le within)] at member
        rcases List.mem_cons.mp member with full | later
        · exact ⟨buffer, full, UInt64.lt_iff_toNat_lt.mpr positive, UInt64.le_refl _⟩
        · exact inductionHypothesis _ (by omega) later

end Buffers

/-! ### The pieces of blocks -/

/-- What is left of a payload is one piece, unless nothing is. -/
def payloadPieces : List UInt8 → List Segment
  | [] => []
  | first :: rest => [.literal (first :: rest)]

namespace Block

/-- How much of the gap is left from an offset in the block on. -/
def gapFrom (offset : Nat) (block : Block) : Nat :=
  block.gap.toNat - (offset - block.payload.length)

/-- The pieces of a block from an offset in it on: the rest of the payload, then of the gap. -/
def piecesFrom (buffer : UInt64) (offset : Nat) (block : Block) : List Segment :=
  payloadPieces (block.payload.drop offset) ++ gapPieces buffer (block.gapFrom offset)

/-- How many pieces those are. -/
def countFrom (buffer : UInt64) (offset : Nat) (block : Block) : Nat :=
  (if offset < block.payload.length then 1 else 0) +
    buffersFor buffer.toNat (block.gapFrom offset)

end Block

/-- The pieces of blocks laid end to end, from an offset on. -/
def piecesFrom (buffer : UInt64) : Nat → List Block → List Segment
  | _, [] => []
  | offset, block :: rest =>
    if offset < block.length then
      block.piecesFrom buffer offset ++ rest.flatMap (Block.piecesFrom buffer 0)
    else
      piecesFrom buffer (offset - block.length) rest

/-- How many pieces whole blocks have. -/
def pieceCount (buffer : UInt64) (blocks : List Block) : Nat :=
  blocks.foldr (fun block count => block.countFrom buffer 0 + count) 0

/-- The pieces that a pass has still to deliver. -/
def File.pieces (file : File) : List Segment :=
  piecesFrom file.filler.size file.position.toNat file.blocks

section Blocks

variable {buffer : UInt64} {block : Block} {offset : Nat}

theorem piecesFrom_payload (inside : offset < block.payload.length) :
    block.piecesFrom buffer offset =
      .literal (block.payload.drop offset) :: gapPieces buffer block.gap.toNat := by
  rw [Block.piecesFrom, Block.gapFrom, Nat.sub_eq_zero_of_le (Nat.le_of_lt inside), Nat.sub_zero]
  cases rest : block.payload.drop offset with
  | nil => exact absurd (List.drop_eq_nil_iff.mp rest) (Nat.not_le_of_lt inside)
  | cons first later => rfl

/-- Behind the payload there is only the rest of the gap. -/
theorem piecesFrom_gap {left : Nat} (bounded : left ≤ block.gap.toNat)
    (sum : offset + left = block.length) :
    block.piecesFrom buffer offset = gapPieces buffer left := by
  rw [Block.length] at sum
  have rest : block.gapFrom offset = left := by
    rw [Block.gapFrom]
    omega
  rw [Block.piecesFrom, rest, List.drop_of_length_le (by omega)]
  rfl

/-- At its end a block has nothing left to deliver. -/
theorem piecesFrom_end (atEnd : offset = block.length) : block.piecesFrom buffer offset = [] := by
  have sum : offset + 0 = block.length := atEnd
  rw [piecesFrom_gap (Nat.zero_le _) sum, gapPieces_zero]

theorem length_piecesFrom (positive : 0 < buffer.toNat) (offset : Nat) (block : Block) :
    (block.piecesFrom buffer offset).length = block.countFrom buffer offset := by
  have payload : (payloadPieces (block.payload.drop offset)).length =
      if offset < block.payload.length then 1 else 0 := by
    by_cases inside : offset < block.payload.length
    · rw [if_pos inside]
      cases rest : block.payload.drop offset with
      | nil => exact absurd (List.drop_eq_nil_iff.mp rest) (Nat.not_le_of_lt inside)
      | cons first later => rfl
    · rw [if_neg inside, List.drop_of_length_le (Nat.le_of_not_lt inside)]
      rfl
  rw [Block.piecesFrom, Block.countFrom, List.length_append, payload, length_gapPieces positive]

theorem length_flatMap_piecesFrom (positive : 0 < buffer.toNat) (blocks : List Block) :
    (blocks.flatMap (Block.piecesFrom buffer 0)).length = pieceCount buffer blocks := by
  induction blocks with
  | nil => rfl
  | cons block rest inductionHypothesis =>
    rw [List.flatMap_cons, List.length_append, length_piecesFrom positive, inductionHypothesis]
    rfl

/-- From their start on, blocks deliver all their pieces, one block after the other. -/
theorem piecesFrom_zero (buffer : UInt64) (blocks : List Block) :
    piecesFrom buffer 0 blocks = blocks.flatMap (Block.piecesFrom buffer 0) := by
  induction blocks with
  | nil => rfl
  | cons block rest inductionHypothesis =>
    rw [piecesFrom, List.flatMap_cons]
    split
    · rfl
    · rename_i empty
      rw [Nat.zero_sub, inductionHypothesis, piecesFrom_end (by omega), List.nil_append]

/-- From inside a block on, or from its end, what is left of it is delivered and then the blocks
behind it. -/
theorem piecesFrom_split (before after : List Block) (inBlock : offset ≤ block.length) :
    piecesFrom buffer (totalLength before + offset) (before ++ block :: after) =
      block.piecesFrom buffer offset ++ after.flatMap (Block.piecesFrom buffer 0) := by
  induction before with
  | nil =>
    rw [List.nil_append, totalLength_nil, Nat.zero_add, piecesFrom]
    split
    · rfl
    · have atEnd : offset = block.length := by omega
      rw [piecesFrom_end atEnd, atEnd, Nat.sub_self, piecesFrom_zero, List.nil_append]
  | cons first later inductionHypothesis =>
    rw [List.cons_append, totalLength_cons, piecesFrom, if_neg (by omega),
      show first.length + totalLength later + offset - first.length =
        totalLength later + offset by omega, inductionHypothesis]

/-- From inside a gap on, what is left of it is delivered and then the blocks behind it. -/
theorem piecesFrom_split_gap (before after : List Block) {position left : Nat}
    (bounded : left ≤ block.gap.toNat)
    (sum : position + left = totalLength before + block.length) :
    piecesFrom buffer position (before ++ block :: after) =
      gapPieces buffer left ++ after.flatMap (Block.piecesFrom buffer 0) := by
  have gap := gap_le_length block
  have inBlock : position = totalLength before + (block.length - left) := by omega
  rw [inBlock, piecesFrom_split before after (Nat.sub_le _ _),
    piecesFrom_gap bounded (by omega)]

theorem piecesFrom_behind {blocks : List Block} (behind : totalLength blocks ≤ offset) :
    piecesFrom buffer offset blocks = [] := by
  induction blocks generalizing offset with
  | nil => rfl
  | cons block rest inductionHypothesis =>
    rw [totalLength_cons] at behind
    rw [piecesFrom, if_neg (by omega)]
    exact inductionHypothesis (by omega)

/-- Every offset before the end is in a block. -/
theorem exists_block_of_lt {blocks : List Block} (inFile : offset < totalLength blocks) :
    ∃ (before after : List Block) (block : Block) (start : Nat),
      blocks = before ++ block :: after ∧ offset = totalLength before + start ∧
        start < block.length := by
  induction blocks generalizing offset with
  | nil => exact absurd inFile (Nat.not_lt_zero _)
  | cons block rest inductionHypothesis =>
    rw [totalLength_cons] at inFile
    by_cases here : offset < block.length
    · exact ⟨[], rest, block, offset, rfl, (Nat.zero_add _).symm, here⟩
    · obtain ⟨before, after, holder, start, split, sum, inside⟩ :=
        inductionHypothesis (show offset - block.length < totalLength rest by omega)
      refine ⟨block :: before, after, holder, start, by rw [split]; rfl, ?_, inside⟩
      rw [totalLength_cons]
      omega

end Blocks

/-- A piece that lies within one payload, or within one gap and one buffer, and is not empty. -/
def Segment.Within (blocks : List Block) (buffer : UInt64) : Segment → Prop
  | .literal bytes => bytes ≠ [] ∧ ∃ block ∈ blocks, bytes <:+ block.payload
  | .filler length => 0 < length ∧ length ≤ buffer

section Pieces

variable {buffer : UInt64} {blocks : List Block} {piece : Segment}

theorem within_of_mem_block (positive : 0 < buffer.toNat) {block : Block} (present : block ∈ blocks)
    {offset : Nat} (member : piece ∈ block.piecesFrom buffer offset) :
    piece.Within blocks buffer := by
  rcases List.mem_append.mp member with inPayload | inGap
  · cases rest : block.payload.drop offset with
    | nil =>
      rw [rest] at inPayload
      cases inPayload
    | cons first later =>
      rw [rest] at inPayload
      rw [List.mem_singleton.mp inPayload]
      exact ⟨List.cons_ne_nil _ _, block, present, rest ▸ List.drop_suffix _ _⟩
  · obtain ⟨length, rfl, some, fits⟩ := mem_gapPieces positive inGap
    exact ⟨some, fits⟩

theorem within_of_mem (positive : 0 < buffer.toNat) {offset : Nat}
    (member : piece ∈ piecesFrom buffer offset blocks) : piece.Within blocks buffer := by
  by_cases inFile : offset < totalLength blocks
  · obtain ⟨before, after, block, start, split, sum, inside⟩ := exists_block_of_lt inFile
    rw [sum, split, piecesFrom_split before after (Nat.le_of_lt inside)] at member
    rcases List.mem_append.mp member with here | later
    · exact within_of_mem_block positive (by rw [split]; simp) here
    · obtain ⟨other, present, member⟩ := List.mem_flatMap.mp later
      exact within_of_mem_block positive (by rw [split]; simp [present]) member
  · rw [piecesFrom_behind (Nat.le_of_not_lt inFile)] at member
    cases member

end Pieces

namespace File

variable {file : File}

/-! ### One read of a pass -/

theorem pieces_deliver {place : Place} {length : UInt64}
    (fits : file.position.toNat + length.toNat ≤ maxOffset) :
    (file.deliver place length).pieces =
      piecesFrom file.filler.size (file.position.toNat + length.toNat) file.blocks := by
  rw [pieces, position_deliver fits]
  rfl

/-- A read delivers the first of the pieces, and the others are still to come. -/
theorem read_pieces (wellFormed : file.WellFormed) (opened : file.Opened) :
    file.read.result = .ok file.pieces.head? ∧ file.read.state.pieces = file.pieces.tail := by
  have delivered := read_delivered wellFormed
  have total := wellFormed.total_le
  have buffer := file.filler.size_toNat_pos
  generalize file.read = outcome at delivered ⊢
  cases delivered with
  | unopened unset => exact absurd opened unset
  | ended _ atEnd =>
    have nothing : file.pieces = [] := by
      refine piecesFrom_behind ?_
      rw [atEnd, wellFormed.size_eq]
    have same : (file.deliver .done 0).pieces = file.pieces := by
      show piecesFrom _ (file.position + 0).toNat _ = _
      rw [UInt64.add_zero]
      rfl
    rw [nothing]
    exact ⟨rfl, same.trans nothing⟩
  | payload _ before after block offset split inside sum =>
    rw [split, totalLength_append, totalLength_cons, Block.length] at total
    have length := toNat_length_drop offset (show block.payload.length ≤ maxOffset by omega)
    have now : file.pieces = .literal (block.payload.drop offset) ::
        (gapPieces file.filler.size block.gap.toNat ++
          after.flatMap (Block.piecesFrom file.filler.size 0)) := by
      rw [pieces, split, sum, piecesFrom_split before after (by rw [Block.length]; omega),
        piecesFrom_payload inside, List.cons_append]
    rw [now]
    refine ⟨rfl, (pieces_deliver (by omega)).trans ?_⟩
    rw [split, List.tail_cons]
    refine piecesFrom_split_gap before after (Nat.le_refl _) ?_
    rw [length, sum, Block.length]
    omega
  | buffer _ before after block left split bounded sum longer =>
    rw [split, totalLength_append, totalLength_cons] at total
    have part := UInt64.lt_iff_toNat_lt.mp longer
    have now : file.pieces = .filler file.filler.size ::
        (gapPieces file.filler.size (left.toNat - file.filler.size.toNat) ++
          after.flatMap (Block.piecesFrom file.filler.size 0)) := by
      rw [pieces, split, piecesFrom_split_gap before after bounded sum,
        gapPieces_of_lt buffer part, List.cons_append]
    rw [now]
    refine ⟨rfl, (pieces_deliver (by omega)).trans ?_⟩
    rw [split, List.tail_cons]
    exact piecesFrom_split_gap before after (by omega) (by omega)
  | remainder _ before after block left split bounded sum nonzero shorter =>
    rw [split, totalLength_append, totalLength_cons] at total
    have some : left.toNat ≠ 0 := Nat.ne_of_gt (toNat_pos_iff.mpr nonzero)
    have now : file.pieces =
        .filler left :: after.flatMap (Block.piecesFrom file.filler.size 0) := by
      rw [pieces, split, piecesFrom_split_gap before after bounded sum,
        gapPieces_of_le some (UInt64.le_iff_toNat_le.mp shorter), UInt64.ofNat_toNat]
      rfl
    rw [now]
    refine ⟨rfl, (pieces_deliver (by omega)).trans ?_⟩
    rw [split, List.tail_cons]
    exact piecesFrom_split_gap before after (Nat.zero_le _) sum

/-! ### Many reads -/

/-- So many reads one after the other. -/
def reads (count : Nat) : List Call :=
  List.replicate count (.file .read)

theorem reads_succ (count : Nat) : reads (count + 1) = .file .read :: reads count :=
  rfl

/-- What so many reads leave still to come. -/
theorem runAll_reads (wellFormed : file.WellFormed) (opened : file.Opened) (count : Nat) :
    (file.runAll (reads count)).WellFormed ∧ (file.runAll (reads count)).Opened ∧
      (file.runAll (reads count)).pieces = file.pieces.drop count := by
  induction count generalizing file with
  | zero => exact ⟨wellFormed, opened, rfl⟩
  | succ count inductionHypothesis =>
    obtain ⟨formed, openedThen, rest⟩ :=
      inductionHypothesis wellFormed.read (opened_read wellFormed opened)
    rw [(read_pieces wellFormed opened).2, List.drop_tail] at rest
    exact ⟨formed, openedThen, rest⟩

/-- What so many reads return. -/
theorem history_reads (wellFormed : file.WellFormed) (opened : file.Opened) (count : Nat) :
    (file.history (reads count)).map Outcome.result =
      (List.range count).map fun index => .ok (.piece file.pieces[index]?) := by
  induction count generalizing file with
  | zero => rfl
  | succ count inductionHypothesis =>
    obtain ⟨result, left⟩ := read_pieces wellFormed opened
    have first : (Call.run file (.file .read)).result = .ok (.piece file.pieces[0]?) := by
      show (file.read.result.map Answer.piece).mapError CallError.file = _
      rw [result, List.head?_eq_getElem?]
      rfl
    have later := inductionHypothesis wellFormed.read (opened_read wellFormed opened)
    rw [left] at later
    simp only [List.getElem?_tail] at later
    rw [reads_succ, history, List.map_cons, first, List.range_succ_eq_map, List.map_cons,
      List.map_map]
    exact congrArg _ later

/-- The read behind the last piece leaves the cursor at the end, where nothing is left to deliver
and reading changes nothing. -/
theorem runAll_reads_finished (wellFormed : file.WellFormed) (opened : file.Opened) :
    file.runAll (reads (file.pieces.length + 1)) =
      { file with cursor := { place := .done, position := file.size } } := by
  obtain ⟨formed, openedThen, nothing⟩ := runAll_reads wellFormed opened file.pieces.length
  rw [List.drop_length] at nothing
  have result := (read_pieces formed openedThen).1
  rw [nothing] at result
  have moved : file.Moved (file.runAll (reads file.pieces.length)) :=
    file.moved_runAll fun call member => by rw [List.eq_of_mem_replicate member]; rfl
  have last : reads (file.pieces.length + 1) = reads file.pieces.length ++ reads 1 :=
    List.replicate_add _ _ _
  rw [Moved] at moved
  rw [last, runAll_append]
  show (file.runAll (reads file.pieces.length)).read.state = _
  rw [(read_finished formed result).2, finished, if_pos openedThen, moved]

end File

/-- A pass delivers exactly the pieces that its position, the blocks and the buffer tell, and ends.
However often an opened file is read, each read returns the next of them, and none is returned once
there are no more. They are what is left of the block under the position and then all later blocks,
each its payload in one piece and its gap in full buffers and what these leave; there are as many as
that makes, and none is empty, longer than the buffer in a gap, or in two payloads. The walk off
exhausted blocks stops in every read. The read behind the last piece leaves the cursor at the end
with nothing pending, where reading changes nothing. -/
theorem pass_delivers_pieces {file : File} (reachable : file.Reachable) (opened : file.Opened) :
    let buffer := file.filler.size
    let pieces := file.pieces
    let last := file.runAll (File.reads (pieces.length + 1))
    (∀ count : Nat, (file.history (File.reads count)).map Outcome.result =
        (List.range count).map fun index => .ok (.piece pieces[index]?)) ∧
      (∀ count : Nat, let reached := file.runAll (File.reads count)
        Strict.settle reached.blocks (reached.blockCount + 1) reached.cursor.place =
            some reached.leaveGap.cursor.place ∧
          Strict.read reached = some reached.read) ∧
      (file.position = file.size → pieces = []) ∧
      (file.position ≠ file.size →
        ∃ (before after : List Block) (block : Block) (offset : Nat),
          file.blocks = before ++ block :: after ∧
            file.position.toNat = totalLength before + offset ∧ offset < block.length ∧
            pieces = block.piecesFrom buffer offset ++ after.flatMap (Block.piecesFrom buffer 0) ∧
            pieces.length = block.countFrom buffer offset + pieceCount buffer after) ∧
      (∀ piece ∈ pieces, piece.Within file.blocks buffer) ∧
      last = { file with cursor := { place := .done, position := file.size } } ∧
      last.position = last.size ∧ last.pendingGap = 0 ∧ last.read = .success last none [] := by
  intro buffer pieces last
  have wellFormed := reachable.wellFormed
  have positive := file.filler.size_toNat_pos
  have finished : last = { file with cursor := { place := .done, position := file.size } } :=
    File.runAll_reads_finished wellFormed opened
  refine ⟨File.history_reads wellFormed opened, fun count => ?_, fun atEnd => ?_,
    fun notAtEnd => ?_, fun piece => within_of_mem positive, finished, ?_⟩
  · have reached := (File.runAll_reads wellFormed opened count).1
    exact ⟨File.strict_settle reached, File.strict_read reached⟩
  · refine piecesFrom_behind ?_
    rw [atEnd, wellFormed.size_eq]
  · have inFile : file.position.toNat < totalLength file.blocks := by
      rw [← wellFormed.size_eq]
      exact Nat.lt_of_le_of_ne wellFormed.position_le fun same =>
        notAtEnd (UInt64.toNat_inj.mp same)
    obtain ⟨before, after, block, offset, split, sum, inside⟩ := exists_block_of_lt inFile
    have upcoming : pieces = block.piecesFrom buffer offset ++
        after.flatMap (Block.piecesFrom buffer 0) := by
      show piecesFrom buffer file.position.toNat file.blocks = _
      rw [split, sum, piecesFrom_split before after (Nat.le_of_lt inside)]
    refine ⟨before, after, block, offset, split, sum, inside, upcoming, ?_⟩
    rw [upcoming, List.length_append, length_piecesFrom positive,
      length_flatMap_piecesFrom positive]
  · rw [finished]
    exact ⟨rfl, rfl, rfl⟩

/-- A pass from the middle of a gap that is a whole number of buffers, over a block without a gap,
to a gap that is not. -/
theorem pass_delivers_pieces_mid_gap :
    let filler : Filler := { size := 4, byte := 7, size_pos := by decide }
    let file := (File.empty filler).runAll
      [.file (.write (.literal [1, 2, 3])), .file (.write (.filler 9)),
        .file (.write (.literal [4])), .file (.write (.literal [5, 6])),
        .file (.write (.filler 5)), .file (.seek 4 .start)]
    let pieces : List Segment :=
      [.filler 4, .filler 4, .literal [4], .literal [5, 6], .filler 4, .filler 1]
    file.cursor.place = .gap 0 8 ∧ file.pieces = pieces ∧
      (file.history (File.reads 8)).map Outcome.result =
        (List.range 8).map (fun index => .ok (.piece pieces[index]?)) ∧
      file.runAll (File.reads 7) =
        { file with cursor := { place := .done, position := file.size } } ∧
      (file.runAll (File.reads 7)).read = .success (file.runAll (File.reads 7)) none [] := by
  intro filler file pieces
  have delivers : file.pieces = pieces := by decide
  obtain ⟨returned, -, -, -, -, last, -, -, further⟩ :=
    pass_delivers_pieces (show file.Reachable from ⟨filler, _, rfl⟩) (by decide)
  rw [delivers] at returned last further
  exact ⟨by decide, delivers, returned 8, last, further⟩

end GappedFiles
