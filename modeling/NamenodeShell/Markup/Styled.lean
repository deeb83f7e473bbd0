import NamenodeShell.Markup.Style

/-!
# Styled text

Characters with the stretches of them that have a style. A character looks as all stretches over it
say, the later ones inside the earlier ones. `runs` cuts styled text wherever a stretch begins or
ends, so that every run looks the same all over; two neighbouring runs may look alike. Cutting
styled text into parts cuts its stretches with it, and those that have nothing left are dropped.
-/
set_option autoImplicit false

namespace NamenodeShell.Markup

/-- A stretch of text with a style, from the character `start` up to the character `stop`. -/
structure Stretch where
  start : Nat
  stop : Nat
  style : Style
  deriving DecidableEq, Repr

/-- **Styled text.** -/
structure Styled where
  chars : List Char := []
  stretches : List Stretch := []
  deriving DecidableEq, Repr, Inhabited

namespace Styled

/-- Text without any style. -/
def ofChars (chars : List Char) : Styled := { chars }

/-- How the character at a place looks. -/
def lookAt (t : Styled) (place : Nat) : Style :=
  t.stretches.foldl
    (fun look s => if s.start ≤ place ∧ place < s.stop then look.within s.style else look) .plain

/-- The places where runs begin, except the first: those inside the text where a stretch begins or
ends. -/
def borders (t : Styled) : List Nat :=
  (((t.stretches.flatMap fun s => [s.start, s.stop]).filter fun place =>
    decide (0 < place ∧ place < t.chars.length)).mergeSort (fun a b => decide (a ≤ b))).eraseDups

/-- Text cut at places, given in ascending order and counted from `start` on. -/
def cutAt {α : Type} : (start : Nat) → List Nat → List α → List (Nat × List α)
  | start, [], cs => if cs.isEmpty then [] else [(start, cs)]
  | start, place :: places, cs =>
    (start, cs.take (place - start)) :: cutAt place places (cs.drop (place - start))

/-- **The runs of styled text.** -/
def runs (t : Styled) : List (Style × List Char) :=
  (cutAt 0 t.borders t.chars).map fun (start, cs) => (t.lookAt start, cs)

/-- The part from one place up to another. -/
def part (t : Styled) (start stop : Nat) : Styled :=
  { chars := (t.chars.take stop).drop start
    stretches := t.stretches.filterMap fun s =>
      let first := s.start - start
      let last := min s.stop stop - start
      if first < last then some ⟨first, last, s.style⟩ else none }

/-- The text with more behind it. -/
def append (t u : Styled) : Styled :=
  let offset := t.chars.length
  { chars := t.chars ++ u.chars
    stretches := t.stretches ++
      u.stretches.map fun s => ⟨offset + s.start, offset + s.stop, s.style⟩ }

/-- The characters that satisfy a condition, with the stretches over them. -/
def filter (t : Styled) (keep : Char → Bool) : Styled :=
  let placeOf (place : Nat) : Nat := ((t.chars.take place).filter keep).length
  { chars := t.chars.filter keep
    stretches := t.stretches.map fun s => ⟨placeOf s.start, placeOf s.stop, s.style⟩ }

end Styled

end NamenodeShell.Markup
