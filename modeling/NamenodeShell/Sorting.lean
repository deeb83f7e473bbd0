/-!
# Sorting by comparisons that may fail

`sort` puts a list in order by asking of two elements whether the first stands before the second. An
answer may be a failure, and the first one met ends the sorting with it, so the questions come in a
fixed order: first those that find the run the list begins with, ascending or descending, then those
that put each further element into its place by halving. Each is asked about the later element of
the list first. Elements of which neither stands before the other keep their order.
-/
set_option autoImplicit false

namespace NamenodeShell.Sorting

variable {α ε : Type} (before : α → α → Except ε Bool)

/-- The elements that go on with a run behind `last`, and those left: in a descending run each
stands before the one in front of it, in an ascending one none does. -/
def runBehind (descending : Bool) : (last : α) → List α → Except ε (List α × List α)
  | _, [] => .ok ([], [])
  | last, x :: rest =>
    match before x last with
    | .error e => .error e
    | .ok answer =>
      if answer = descending then
        match runBehind descending x rest with
        | .error e => .error e
        | .ok (run, left) => .ok (x :: run, left)
      else .ok ([], x :: rest)

/-- The run a list begins with, in ascending order, and the elements left. -/
def leadingRun : List α → Except ε (List α × List α)
  | [] => .ok ([], [])
  | [x] => .ok ([x], [])
  | x :: y :: rest =>
    match before y x with
    | .error e => .error e
    | .ok descending =>
      match runBehind before descending y rest with
      | .error e => .error e
      | .ok (run, left) =>
        let run := x :: y :: run
        .ok (if descending then run.reverse else run, left)

/-- An element put into its place among sorted ones, behind those it is level with. The middle one
decides on which side of it the place is. -/
def insert (x : α) (sorted : List α) : Except ε (List α) :=
  match _h : sorted.drop (sorted.length / 2) with
  | [] => .ok [x]
  | middle :: above =>
    let below := sorted.take (sorted.length / 2)
    match before x middle with
    | .error e => .error e
    | .ok true =>
      match insert x below with
      | .error e => .error e
      | .ok below => .ok (below ++ middle :: above)
    | .ok false =>
      match insert x above with
      | .error e => .error e
      | .ok above => .ok (below ++ middle :: above)
termination_by sorted.length
decreasing_by
  · have := congrArg List.length _h
    simp only [List.length_drop, List.length_cons] at this
    simp only [List.length_take]
    omega
  · have := congrArg List.length _h
    simp only [List.length_drop, List.length_cons] at this
    omega

/-- Elements put into their places one after the other. -/
def insertAll (sorted : List α) : List α → Except ε (List α)
  | [] => .ok sorted
  | x :: rest =>
    match insert before x sorted with
    | .error e => .error e
    | .ok sorted => insertAll sorted rest

/-- **A list put in order**, or the first failure of a comparison. -/
def sort (xs : List α) : Except ε (List α) :=
  match leadingRun before xs with
  | .error e => .error e
  | .ok (run, left) => insertAll before run left

end NamenodeShell.Sorting
