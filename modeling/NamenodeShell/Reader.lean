import NamenodeShell.Bytes

/-!
# Files that are read in pieces

A file on its way out, as it is read: what is left of it, how many bytes are asked for at a time,
and how many have come. Every step asks for the next piece and counts it before it is handed on; the
first piece that comes empty is the end and is not handed on. So whoever has taken some pieces can
see in `size` how many bytes these were.
-/
set_option autoImplicit false

namespace NamenodeShell

/-- **A file that is being read in pieces.** -/
structure Reader where
  rest : Bytes
  pieceSize : Nat
  /-- The bytes that have been handed on. -/
  size : Nat := 0
  deriving DecidableEq, Repr

namespace Reader

/-- A file of which nothing has been read. -/
def opened (content : Bytes) (pieceSize : Nat) : Reader :=
  { rest := content, pieceSize }

/-- **The next piece**, and the reader when it has been handed on. -/
def next? (r : Reader) : Option (Bytes × Reader) :=
  let piece := r.rest.take r.pieceSize
  if piece = [] then none
  else some (piece, { r with
    rest := r.rest.drop r.pieceSize
    size := r.size + piece.length })

theorem next?_eq_some {r r' : Reader} {piece : Bytes} : r.next? = some (piece, r') ↔
    piece ≠ [] ∧ piece = r.rest.take r.pieceSize ∧
      r' = { r with rest := r.rest.drop r.pieceSize, size := r.size + piece.length } := by
  simp only [next?]
  constructor
  · intro h
    split at h
    next => cases h
    next hne =>
      cases h
      exact ⟨hne, rfl, rfl⟩
  · rintro ⟨hne, rfl, rfl⟩
    rw [if_neg hne]

/-- Every step leaves less of the file. -/
theorem length_rest_lt {r r' : Reader} {piece : Bytes} (h : r.next? = some (piece, r')) :
    r'.rest.length < r.rest.length := by
  obtain ⟨hne, rfl, rfl⟩ := next?_eq_some.mp h
  have hpos := List.length_pos_iff.mpr hne
  rw [List.length_take] at hpos
  rw [List.length_drop]
  omega

/-- **All pieces up to the end**, and the reader there. -/
def run (r : Reader) : List Bytes × Reader :=
  match _h : r.next? with
  | none => ([], r)
  | some (piece, r') =>
    let (pieces, last) := r'.run
    (piece :: pieces, last)
termination_by r.rest.length
decreasing_by exact length_rest_lt ‹_›

/-- The pieces that are still to come. -/
def pieces (r : Reader) : List Bytes := r.run.1

/-- The reader at the end. -/
def last (r : Reader) : Reader := r.run.2

end Reader

end NamenodeShell
