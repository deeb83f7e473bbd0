import NamenodeShell.Text.Order

/-!
# Similar words

How alike two words are, for finding the word that was meant by one that is not known. The longest
run of characters that two words share is matched, then the same is done with what stands before it
in both words and with what stands behind it in both; the likeness is the share of matched
characters among all characters of the two. Of runs of equal length the first one counts, in the
first word before the second.
-/
set_option autoImplicit false

namespace NamenodeShell.Text

/-- How many characters two texts begin with in common. -/
def commonLength : List Char → List Char → Nat
  | a :: as, b :: bs => if a = b then commonLength as bs + 1 else 0
  | _, _ => 0

/-- **A run that two words share**: where it begins in either, and its length. -/
structure SharedRun where
  left : Nat
  right : Nat
  size : Nat
  deriving DecidableEq, Repr, Inhabited

/-- The longer of two runs, the first of them when they are equally long. -/
def SharedRun.longer (r s : SharedRun) : SharedRun :=
  if r.size < s.size then s else r

/-- The longest run that begins at the front of `a`, which is the place `left` of the first word,
and anywhere in what is left of the second word from its place `right` on. -/
def sharedAt (a : List Char) (left : Nat) :
    (right : Nat) → (best : SharedRun) → List Char → SharedRun
  | _, best, [] => best
  | right, best, b :: bs =>
    sharedAt a left (right + 1) (best.longer ⟨left, right, commonLength a (b :: bs)⟩) bs

/-- The longest run from the place `left` of the first word on. -/
def sharedFrom (b : List Char) : (left : Nat) → (best : SharedRun) → List Char → SharedRun
  | _, best, [] => best
  | left, best, c :: rest =>
    sharedFrom b (left + 1) (sharedAt (c :: rest) left 0 best b) rest

/-- **The longest run that two words share**, the first of the longest ones. -/
def longestShared (a b : List Char) : SharedRun :=
  sharedFrom b 0 ⟨0, 0, 0⟩ a

/-- How many characters of two words are matched. Each step splits off a run of the first word, so
its length is fuel enough. -/
def matchedWith : (fuel : Nat) → List Char → List Char → Nat
  | 0, _, _ => 0
  | fuel + 1, a, b =>
    let run := longestShared a b
    if run.size = 0 then 0
    else
      matchedWith fuel (a.take run.left) (b.take run.right) + run.size +
        matchedWith fuel (a.drop (run.left + run.size)) (b.drop (run.right + run.size))

/-- **A likeness**: so many matched characters, counted in both words, of so many. -/
structure Likeness where
  matched : Nat
  total : Nat
  deriving DecidableEq, Repr

/-- **The likeness of two words.** -/
def likeness (a b : String) : Likeness :=
  let as := a.toList
  let bs := b.toList
  { matched := 2 * matchedWith as.length as bs, total := as.length + bs.length }

namespace Likeness

/-- Whether words are alike enough for one to be meant by the other: three characters in five. -/
def isClose (l : Likeness) : Bool :=
  decide (3 * l.total ≤ 5 * l.matched)

/-- Whether one likeness is greater than another. -/
def exceeds (l k : Likeness) : Bool :=
  decide (k.matched * l.total < l.matched * k.total)

end Likeness

/-- The most words that are offered for one. -/
def maxMeant : Nat := 3

/-- **The words that may be meant by a word**, the most alike of the known ones; of equally alike
words the later one in the alphabet goes first. -/
def meant (known : List String) (word : String) : List String :=
  let close := (known.map fun k => (likeness k word, k)).filter (·.1.isClose)
  let sorted := close.mergeSort fun (l, a) (k, b) =>
    l.exceeds k || (!k.exceeds l && inOrder b.toList a.toList)
  (sorted.take maxMeant).map (·.2)

end NamenodeShell.Text
