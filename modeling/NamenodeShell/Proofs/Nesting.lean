import NamenodeShell.Service

/-!
# Bodies that nest too deeply

How deeply the values of a body may lie one inside the other is limited, and a body is given up on
at the first list or object beyond the limit, whatever follows. A body that opens one list more than
the limit is given up on there (`value_brackets`), so it is not known to be JSON or anything else
(`Response.json_of_brackets`).
-/
set_option autoImplicit false

namespace NamenodeShell

namespace Json

/-- A bracket right behind a bracket is the first element of its list. -/
theorem value_brackets_succ (fuel room : Nat) (cs : List Char) (pos : Nat) :
    value (fuel + 1) (room + 1) ('[' :: '[' :: cs) pos =
      elements fuel room [] ('[' :: cs) (pos + 1) := by
  rw [value]
  rfl

/-- Every opening bracket takes up room, and the one for which there is none left is too many. -/
theorem value_brackets (room : Nat) :
    ∀ {fuel : Nat} (cs : List Char) (pos : Nat), 2 * room < fuel →
      value fuel room (List.replicate (room + 1) '[' ++ cs) pos =
        .error (.tooDeep false, pos + room) := by
  -- each bracket costs a call of `value` and one of `elements`
  induction room with
  | zero =>
    intro fuel cs pos hfuel
    obtain ⟨fuel, rfl⟩ := Nat.exists_eq_succ_of_ne_zero (Nat.ne_of_gt hfuel)
    change value (fuel + 1) 0 ('[' :: cs) pos = _
    rw [value]
    rfl
  | succ room ih =>
    intro fuel cs pos hfuel
    obtain ⟨fuel, rfl⟩ : ∃ n, fuel = n + 1 + 1 := ⟨fuel - 2, by omega⟩
    have hinner := ih cs (pos + 1) (show 2 * room < fuel by omega)
    rw [List.replicate_succ, List.cons_append] at hinner
    rw [List.replicate_succ, List.replicate_succ, List.cons_append, List.cons_append,
      value_brackets_succ, elements, hinner, Nat.add_assoc, Nat.add_comm 1]

/-- What is wrong with the value of a text that begins with a bracket is wrong with the text. -/
theorem document_bracket {cs : List Char} {e : Fault}
    (h : value (2 * ('[' :: cs).length + 2) maxNesting ('[' :: cs) 0 = .error e) :
    document ('[' :: cs) = .error e := by
  unfold document
  simp only [skipGaps, isGap, Char.reduceBEq, Bool.or_self, Bool.false_eq_true, if_false, h]
  rfl

/-- **A text that opens more lists than may lie one inside the other is nested too deeply.** -/
theorem read_brackets {n : Nat} (hn : maxNesting < n) (cs : List Char) :
    ∃ e, read (.ofList (List.replicate n '[' ++ cs)) = .error e ∧ e.problem = .tooDeep false := by
  obtain ⟨more, rfl⟩ : ∃ more, n = maxNesting + 1 + more := ⟨n - (maxNesting + 1), by omega⟩
  rw [← List.replicate_append_replicate, List.append_assoc]
  generalize List.replicate more '[' ++ cs = rest
  have hfuel : 2 * maxNesting < 2 * (List.replicate (maxNesting + 1) '[' ++ rest).length + 2 := by
    rw [List.length_append, List.length_replicate]
    omega
  have hvalue := value_brackets maxNesting rest 0 hfuel
  rw [List.replicate_succ, List.cons_append] at hvalue ⊢
  unfold read
  simp only [String.toList_ofList, document_bracket hvalue]
  exact ⟨_, rfl, rfl⟩

end Json

/-- Opening brackets are read as such. -/
theorem Bytes.text_brackets (n : Nat) (rest : Bytes) :
    text (List.replicate n 91 ++ rest) = .ofList (List.replicate n '[' ++ decode none rest) := by
  unfold text
  congr 1
  induction n with
  | zero => rfl
  | succ n ih =>
    rw [List.replicate_succ, List.replicate_succ, List.cons_append, List.cons_append, ← ih]
    rfl

/-- **A body that opens too many lists cannot be read**, and is not known to be something other than
JSON. -/
theorem Response.json_of_brackets {r : Response} {n : Nat} {rest : Bytes}
    (hbody : r.body = .whole (List.replicate n 91 ++ rest)) (hn : Json.maxNesting < n) :
    ∃ why, r.json = .error why ∧ why.isOtherText = false := by
  obtain ⟨e, hread, hproblem⟩ := Json.read_brackets hn (Bytes.decode none rest)
  refine ⟨.notJson e, ?_, ?_⟩
  · rw [json, hbody]
    simp only [Body.content, Bytes.text_brackets, hread]
    rfl
  · simp only [Unreadable.isOtherText, hproblem]

end NamenodeShell
