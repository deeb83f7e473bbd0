import Mathlib.Algebra.Order.Floor.Div
import NamenodeShell.Reader

/-!
# What a reader makes of a file

A reader comes to the end of its file, and the pieces it has handed on until then partition the file
(`partitions_file`): they are the file when put together, none of them is empty, and all but the
last are full. An empty piece among them would be taken for the end by whoever they are sent to.

What one step does is said once (`Takes`), and what a number of steps does follows by induction on
them (`Reads`): what has been handed on and what is left are the file, and `size` has counted the
former. The stretches of steps a reader can be seen after are those that begin a run to the end
(`isPrefix_pieces_iff`), so the count is right at every moment.
-/
set_option autoImplicit false

namespace NamenodeShell.Reader

variable {r r' r'' : Reader} {piece : Bytes} {seen : List Bytes}

/-! ## One step -/

/-- **What one step does**: it takes a piece off what is left and counts it. A piece that is not
full is the last. -/
structure Takes (r : Reader) (piece : Bytes) (r' : Reader) : Prop where
  splits : piece ++ r'.rest = r.rest
  pieceSize : r'.pieceSize = r.pieceSize
  counted : r'.size = r.size + piece.length
  nonempty : 1 ≤ piece.length
  within : piece.length ≤ r.pieceSize
  full : r'.rest ≠ [] → piece.length = r.pieceSize

/-- **Every step takes a piece**, full unless the file ends in it. -/
theorem takes_of_next? (h : r.next? = some (piece, r')) : Takes r piece r' := by
  obtain ⟨hne, rfl, rfl⟩ := next?_eq_some.mp h
  refine ⟨List.take_append_drop _ _, rfl, rfl, List.length_pos_iff.mpr hne,
    List.length_take_le _ _, fun hrest => ?_⟩
  have hlong := List.length_pos_iff.mpr hrest
  rw [List.length_drop] at hlong
  exact List.length_take_of_le (by omega)

/-- The end is where nothing is left, unless nothing is asked for. -/
theorem next?_eq_none : r.next? = none ↔ r.rest = [] ∨ r.pieceSize = 0 := by
  simp only [next?, ite_eq_left_iff, reduceCtorEq, imp_false, not_not, List.take_eq_nil_iff]
  exact or_comm

/-! ## Some steps -/

/-- **Some pieces have been read**, one after the other. -/
inductive Reads : Reader → List Bytes → Reader → Prop
  | nil (r : Reader) : Reads r [] r
  | cons {r r' r'' : Reader} {piece : Bytes} {seen : List Bytes}
      (hnext : r.next? = some (piece, r')) (hrest : Reads r' seen r'') : Reads r (piece :: seen) r''

namespace Reads

/-- Nothing of the file is lost. -/
theorem conserves (h : Reads r seen r') : seen.flatten ++ r'.rest = r.rest := by
  induction h with
  | nil r => rfl
  | cons hnext _ ih =>
    rw [List.flatten_cons, List.append_assoc, ih]
    exact (takes_of_next? hnext).splits

/-- What is asked for stays the same. -/
theorem pieceSize_eq (h : Reads r seen r') : r'.pieceSize = r.pieceSize := by
  induction h with
  | nil r => rfl
  | cons hnext _ ih => exact ih.trans (takes_of_next? hnext).pieceSize

/-- **The count is that of the pieces that have been handed on.** -/
theorem counted (h : Reads r seen r') : r'.size = r.size + (seen.map List.length).sum := by
  induction h with
  | nil r => rfl
  | cons hnext _ ih =>
    rw [ih, (takes_of_next? hnext).counted, List.map_cons, List.sum_cons, Nat.add_assoc]

/-- No piece is empty, and none is longer than what is asked for. -/
theorem bounds (h : Reads r seen r') :
    ∀ piece ∈ seen, 1 ≤ piece.length ∧ piece.length ≤ r.pieceSize := by
  induction h with
  | nil r => nofun
  | cons hnext _ ih =>
    have htakes := takes_of_next? hnext
    rw [htakes.pieceSize] at ih
    exact List.forall_mem_cons.mpr ⟨⟨htakes.nonempty, htakes.within⟩, ih⟩

/-- **A piece with another behind it is full**, for something was left when it had been taken. -/
theorem full (h : Reads r seen r') : ∀ piece ∈ seen.dropLast, piece.length = r.pieceSize := by
  induction h with
  | nil r => nofun
  | cons hnext hrest ih =>
    have htakes := takes_of_next? hnext
    -- A piece with another behind it left something, for a reader with nothing left hands on no
    -- more.
    cases hrest with
    | nil r => nofun
    | cons hnext' hrest' =>
      rw [htakes.pieceSize] at ih
      rw [List.dropLast_cons_of_ne_nil (List.cons_ne_nil _ _)]
      refine List.forall_mem_cons.mpr ⟨htakes.full fun hnil => ?_, ih⟩
      rw [next?_eq_none.mpr (.inl hnil)] at hnext'
      cases hnext'

end Reads

/-! ## The run to the end -/

/-- At the end there is nothing to hand on, -/
theorem run_of_none (h : r.next? = none) : r.run = ([], r) := by
  rw [run]
  split
  next => rfl
  next hnext =>
    rw [h] at hnext
    cases hnext

/-- and before it a run hands on the next piece and goes on from there. -/
theorem run_of_some (h : r.next? = some (piece, r')) : r.run = (piece :: r'.pieces, r'.last) := by
  rw [run]
  split
  next hnext =>
    rw [h] at hnext
    cases hnext
  next hnext =>
    rw [h] at hnext
    cases hnext
    rfl

/-- **Induction along a run.** -/
theorem run_induction {motive : Reader → Prop} (none : ∀ r, r.next? = none → motive r)
    (some : ∀ r piece r', r.next? = some (piece, r') → motive r' → motive r) (r : Reader) :
    motive r := by
  -- Every step leaves less of the file.
  induction hn : r.rest.length using Nat.strongRecOn generalizing r with
  | ind n ih =>
    cases hnext : r.next? with
    | none => exact none r hnext
    | some step =>
      obtain ⟨piece, r'⟩ := step
      exact some r piece r' hnext (ih _ (hn ▸ length_rest_lt hnext) r' rfl)

/-- **A run comes to the end**: it reads its pieces, and there are no more. -/
theorem reads_run (r : Reader) : Reads r r.pieces r.last ∧ r.last.next? = none := by
  induction r using run_induction with
  | none r hnext =>
    rw [pieces, last, run_of_none hnext]
    exact ⟨.nil r, hnext⟩
  | some r piece r' hnext ih =>
    rw [pieces, last, run_of_some hnext]
    exact ⟨.cons hnext ih.1, ih.2⟩

/-- **A reader can be seen after the beginnings of its run**, and after nothing else. -/
theorem isPrefix_pieces_iff : seen <+: r.pieces ↔ ∃ r', Reads r seen r' := by
  constructor
  · intro h
    induction r using run_induction generalizing seen with
    | none r hnext =>
      rw [pieces, run_of_none hnext, List.prefix_nil] at h
      exact ⟨r, h ▸ .nil r⟩
    | some r piece r' hnext ih =>
      rw [pieces, run_of_some hnext] at h
      cases seen with
      | nil => exact ⟨r, .nil r⟩
      | cons first seen =>
        obtain ⟨rfl, hseen⟩ := List.cons_prefix_cons.mp h
        obtain ⟨r'', hreads⟩ := ih hseen
        exact ⟨r'', .cons hnext hreads⟩
  · rintro ⟨r', h⟩
    induction h with
    | nil r => exact List.nil_prefix
    | cons hnext _ ih =>
      rw [pieces, run_of_some hnext]
      exact List.cons_prefix_cons.mpr ⟨rfl, ih⟩

/-- A run leaves nothing of the file. -/
theorem rest_last (h : 1 ≤ r.pieceSize) : r.last.rest = [] := by
  obtain ⟨hreads, hend⟩ := reads_run r
  refine (next?_eq_none.mp hend).resolve_right ?_
  rw [hreads.pieceSize_eq]
  exact Nat.one_le_iff_ne_zero.mp h

/-- **The pieces are the file** when put together. -/
theorem flatten_pieces (h : 1 ≤ r.pieceSize) : r.pieces.flatten = r.rest := by
  have hconserves := (reads_run r).1.conserves
  rwa [rest_last h, List.append_nil] at hconserves

/-- **As many pieces as are needed**, and no more. -/
theorem length_pieces (h : 1 ≤ r.pieceSize) : r.pieces.length = r.rest.length ⌈/⌉ r.pieceSize := by
  induction r using run_induction with
  | none r hnext =>
    have hrest := (next?_eq_none.mp hnext).resolve_right (Nat.one_le_iff_ne_zero.mp h)
    rw [pieces, run_of_none hnext, hrest]
    exact (zero_ceilDiv r.pieceSize).symm
  | some r piece r' hnext ih =>
    have htakes := takes_of_next? hnext
    have hlength : r.rest.length = piece.length + r'.rest.length := by
      rw [← htakes.splits, List.length_append]
    rw [pieces, run_of_some hnext, List.length_cons, ih (by rwa [htakes.pieceSize]),
      htakes.pieceSize, hlength, Nat.ceilDiv_eq_add_pred_div, Nat.ceilDiv_eq_add_pred_div]
    -- The last piece may be short and counts for one; any other is full and takes one off the
    -- count.
    by_cases hrest : r'.rest = []
    · have hone : (piece.length + 0 + r.pieceSize - 1) / r.pieceSize = 1 :=
        Nat.div_eq_of_lt_le (by have := htakes.nonempty; omega) (by have := htakes.within; omega)
      rw [hrest, List.length_nil, hone, Nat.zero_add, Nat.div_eq_of_lt (by omega)]
    · have hshift : piece.length + r'.rest.length + r.pieceSize - 1 =
          (r'.rest.length + r.pieceSize - 1) + r.pieceSize := by
        rw [htakes.full hrest]
        omega
      rw [hshift, Nat.add_div_right _ h]

/-- The pieces of a file are those that a body falls into when it is asked for as many bytes. -/
theorem pieces_eq_chunks (h : 1 ≤ r.pieceSize) : r.pieces = Bytes.chunks r.pieceSize r.rest := by
  induction r using run_induction with
  | none r hnext =>
    have hrest := (next?_eq_none.mp hnext).resolve_right (Nat.one_le_iff_ne_zero.mp h)
    rw [pieces, run_of_none hnext, hrest, Bytes.chunks]
  | some r piece r' hnext ih =>
    obtain ⟨hne, rfl, rfl⟩ := next?_eq_some.mp hnext
    obtain ⟨n, hn⟩ := Nat.exists_eq_add_of_le' h
    obtain ⟨b, rest, hrest⟩ := List.exists_cons_of_ne_nil fun hnil : r.rest = [] =>
      hne (by rw [hnil, List.take_nil])
    rw [pieces, run_of_some hnext, ih h]
    simp only [hrest, hn, Bytes.chunks, List.take_succ_cons, List.drop_succ_cons,
      Nat.add_sub_cancel]

/-- At the end the whole file has been counted. -/
theorem size_last (content : Bytes) {pieceSize : Nat} (h : 1 ≤ pieceSize) :
    (opened content pieceSize).last.size = content.length := by
  rw [(reads_run _).1.counted, ← List.length_flatten, flatten_pieces h]
  exact Nat.zero_add _

/-! ## The partition -/

/-- **Pieces that partition a file**: they are the file when put together, none of them is empty,
and all but the last are full. -/
structure Partition (pieceSize : Nat) (content : Bytes) (pieces : List Bytes) : Prop where
  flatten : pieces.flatten = content
  nonempty : ∀ piece ∈ pieces, piece ≠ []
  full : ∀ piece ∈ pieces.dropLast, piece.length = pieceSize
  last : ∀ piece ∈ pieces.getLast?, 1 ≤ piece.length ∧ piece.length ≤ pieceSize
  count : pieces.length = content.length ⌈/⌉ pieceSize

/-- The pieces that a reader hands on until its end partition the file. -/
theorem partition_pieces (content : Bytes) {pieceSize : Nat} (h : 1 ≤ pieceSize) :
    Partition pieceSize content (opened content pieceSize).pieces := by
  have hreads := (reads_run (opened content pieceSize)).1
  refine ⟨flatten_pieces h, fun piece hpiece hnil => ?_, hreads.full, fun piece hpiece => ?_,
    length_pieces h⟩
  · have hnonempty := (hreads.bounds piece hpiece).1
    rw [hnil] at hnonempty
    exact absurd hnonempty (by decide)
  · exact hreads.bounds piece (List.mem_of_getLast? hpiece)

/-- **A reader partitions its file.** It comes to the end, and the pieces it has handed on until
then partition the file. Whatever beginning of them has been read, it has counted its bytes. -/
theorem partitions_file (content : Bytes) {pieceSize : Nat} (h : 1 ≤ pieceSize) :
    let r := opened content pieceSize
    (Reads r r.pieces r.last ∧ r.last.next? = none) ∧
      Partition pieceSize content r.pieces ∧
      (∀ seen, seen <+: r.pieces ↔ ∃ r', Reads r seen r') ∧
      ∀ seen r', Reads r seen r' → r'.size = (seen.map List.length).sum := by
  intro r
  refine ⟨reads_run r, partition_pieces content h, fun _ => isPrefix_pieces_iff, ?_⟩
  intro seen r' hreads
  rw [hreads.counted]
  exact Nat.zero_add _

/-- A file of five bytes is read in three pieces of two bytes at most. -/
theorem partitions_file_sample :
    1 ≤ 2 ∧ (opened [1, 2, 3, 4, 5] 2).pieces = [[1, 2], [3, 4], [5]] ∧
      Partition 2 [1, 2, 3, 4, 5] [[1, 2], [3, 4], [5]] ∧
      ∃ r', Reads (opened [1, 2, 3, 4, 5] 2) [[1, 2], [3, 4]] r' ∧ r'.size = 4 := by
  have hsize : 1 ≤ 2 := by
    decide
  have hpieces : (opened [1, 2, 3, 4, 5] 2).pieces = [[1, 2], [3, 4], [5]] := by
    decide +kernel
  obtain ⟨-, hpartition, hseen, hcount⟩ := partitions_file [1, 2, 3, 4, 5] hsize
  rw [hpieces] at hpartition hseen
  obtain ⟨r', hreads⟩ := (hseen [[1, 2], [3, 4]]).mp ⟨[[5]], rfl⟩
  exact ⟨hsize, hpieces, hpartition, r', hreads, hcount _ r' hreads⟩

end NamenodeShell.Reader
