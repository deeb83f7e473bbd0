import NamenodeShell.Proofs.Command

/-!
# The grammar of typed lines

Double quotes cut a line into segments, one more than there are quotes. If there is one segment, a
command is its first word; otherwise the name is the first segment without the blanks around it, and
the segments at odd places that are closed by a quote are the arguments, two at most (`Reads`).

The reader of lines goes by characters and has no segments. It agrees with the grammar because of
what it does between two quotes: outside of a pair it passes a segment over, and inside one it keeps
it (`quotedTexts_eq`, by induction on the characters, with the open segment as far as it is read in
front of the others). The name is settled by what is left when blanks are dropped, from the front
(`Text.firstWord_eq_iff`) and from both ends (`Text.strip_eq_iff`). So a line is read as a command
if and only if the grammar says so, and what is written by the grammar is read back
(`ofLine_grammar`).
-/
set_option autoImplicit false

namespace NamenodeShell.Command

/-! ## Segments -/

/-- **The segments of a line**, from quote to quote. -/
def segments (line : String) : List (List Char) :=
  line.toList.splitOn '"'

/-- **The closed quoted segments**: those at odd places `i < k`, where `k` is the number of
quotes. -/
def closedSegments (segments : List (List Char)) : List (List Char) :=
  ((List.range (segments.length - 1)).filter (· % 2 = 1)).filterMap (segments[·]?)

/-- The segment at place one is closed once a third follows, and the others are counted from there.
-/
theorem closedSegments_cons (s₀ s₁ s₂ : List Char) (rest : List (List Char)) :
    closedSegments (s₀ :: s₁ :: s₂ :: rest) = s₁ :: closedSegments (s₂ :: rest) := by
  have hodd : ((· % 2 = 1) : Nat → Bool) ∘ (· + 2) = ((· % 2 = 1) : Nat → Bool) := by
    funext i
    simp only [Function.comp_apply, Nat.add_mod_right]
  -- The places are 0 and 1, of which the second is odd, and those of the rest two further on.
  have hrange : List.range (rest.length + 2) = 0 :: 1 :: (List.range rest.length).map (· + 2) := by
    rw [List.range_succ_eq_map, List.range_succ_eq_map, List.map_cons, List.map_map]
    rfl
  unfold closedSegments
  simp only [List.length_cons, Nat.add_sub_cancel, hrange]
  rw [List.filter_cons_of_neg (by decide), List.filter_cons_of_pos (by decide), List.filter_map,
    hodd, List.filterMap_cons, List.filterMap_map]
  rfl

/-- There is always a segment, if only an empty one. -/
theorem exists_cons_splitOn (cs : List Char) : ∃ s₀ rest, cs.splitOn '"' = s₀ :: rest :=
  List.exists_cons_of_ne_nil (List.splitOn_ne_nil _ _)

/-- A segment in front of the segments of a text is closed. -/
theorem closedSegments_splitOn (s₀ s₁ cs : List Char) :
    closedSegments (s₀ :: s₁ :: cs.splitOn '"') = s₁ :: closedSegments (cs.splitOn '"') := by
  obtain ⟨s₂, rest, hcs⟩ := exists_cons_splitOn cs
  rw [hcs, closedSegments_cons]

/-- What stands in front of all quotes is in no pair. -/
theorem closedSegments_modifyHead (f : List Char → List Char) (segments : List (List Char)) :
    closedSegments (segments.modifyHead f) = closedSegments segments := by
  cases segments with
  | nil => rfl
  | cons s₀ rest =>
    cases rest with
    | nil => rfl
    | cons s₁ rest =>
      cases rest with
      | nil => rfl
      | cons s₂ rest => rw [List.modifyHead_cons, closedSegments_cons, closedSegments_cons]

/-- The segments from where the reader stands: an open one counts as far as it is held, and it is
behind one that is passed over. -/
def ahead : (held : Option (List Char)) → List (List Char) → List (List Char)
  | none, segments => segments
  | some held, segments => [] :: segments.modifyHead (held.reverse ++ ·)

/-- **The texts in pairs of quotes are the closed quoted segments.** -/
theorem quotedTexts_eq (held : Option (List Char)) (cs : List Char) :
    quotedTexts held cs = closedSegments (ahead held (cs.splitOn '"')) := by
  -- By the cases of the reader: outside and inside of a pair, at a quote and at another character.
  fun_induction quotedTexts held cs with
  | case1 held => cases held <;> rfl
  | case2 rest ih =>
    rw [ih, List.splitOn_cons_eq_if_modifyHead, if_pos (beq_self_eq_true _)]
    cases rest.splitOn '"' <;> rfl
  | case3 c rest hc ih =>
    rw [ih, List.splitOn_cons_eq_if_modifyHead, if_neg (by rwa [beq_iff_eq])]
    exact (closedSegments_modifyHead _ _).symm
  | case4 held rest ih =>
    rw [ih, List.splitOn_cons_eq_if_modifyHead, if_pos (beq_self_eq_true _)]
    simp only [ahead, List.modifyHead_cons, List.append_nil]
    exact (closedSegments_splitOn _ _ _).symm
  | case5 held c rest hc ih =>
    rw [ih, List.splitOn_cons_eq_if_modifyHead, if_neg (by rwa [beq_iff_eq])]
    obtain ⟨s₁, others, hrest⟩ := exists_cons_splitOn rest
    simp only [ahead, hrest, List.modifyHead_cons, List.reverse_cons, List.append_assoc,
      List.singleton_append]

/-! ## The grammar -/

/-- **What a line is read as**, by its segments. -/
inductive Reads (line : String) : Command → Prop
  | word {s₀ word : List Char} (hsegments : segments line = [s₀])
      (hword : Text.IsFirstWord word s₀) : Reads line ⟨.ofList word, []⟩
  | quoted {s₀ s₁ name : List Char} {rest : List (List Char)}
      (hsegments : segments line = s₀ :: s₁ :: rest) (hname : Text.IsStripped name s₀) :
      Reads line ⟨.ofList name, ((closedSegments (segments line)).take 2).map .ofList⟩

/-- **A line is read as one command** only. -/
theorem Reads.unique {line : String} {command command' : Command} (h : Reads line command)
    (h' : Reads line command') : command = command' := by
  cases h with
  | word hsegments hword =>
    cases h' with
    | word hsegments' hword' =>
      cases hsegments.symm.trans hsegments'
      rw [← Text.firstWord_eq_iff.mpr hword, ← Text.firstWord_eq_iff.mpr hword']
    | quoted hsegments' => cases hsegments.symm.trans hsegments'
  | quoted hsegments hname =>
    cases h' with
    | word hsegments' => cases hsegments.symm.trans hsegments'
    | quoted hsegments' hname' =>
      cases hsegments.symm.trans hsegments'
      rw [← Text.strip_eq_iff.mpr hname, ← Text.strip_eq_iff.mpr hname']

/-- **What the reader takes from a line is by the grammar.** -/
theorem reads_ofLine (line : String) : Reads line (ofLine line) := by
  -- One segment or more, which is whether there is a quote.
  by_cases hquote : '"' ∈ line.toList
  case neg =>
    have hline : ofLine line = ⟨.ofList (Text.firstWord line.toList), []⟩ := by
      simp only [ofLine, nameOf, if_neg hquote, quotedTexts_of_not_mem none hquote]
      rfl
    rw [hline]
    exact .word (List.splitOn_eq_singleton hquote) (Text.firstWord_eq_iff.mp rfl)
  case pos =>
    obtain ⟨front, rest, hfront, hfree⟩ := List.eq_append_cons_of_mem hquote
    have hsegments : segments line = front :: rest.splitOn '"' := by
      rw [segments, hfront, List.splitOn_append_cons_self, List.splitOn_eq_singleton hfree,
        List.singleton_append]
    have htake : front.takeWhile (· ≠ '"') = front := by
      refine List.takeWhile_eq_self_iff.mpr fun c hc => decide_eq_true ?_
      rintro rfl
      exact hfree hc
    have hline : ofLine line = ⟨.ofList (Text.strip front),
        ((closedSegments (segments line)).take 2).map .ofList⟩ := by
      have hname : nameOf line.toList = Text.strip front := by
        rw [hfront, nameOf_append, htake]
      simp only [ofLine, hname, quotedTexts_eq]
      rfl
    rw [hline]
    obtain ⟨s₁, others, hrest⟩ := exists_cons_splitOn rest
    rw [hrest] at hsegments
    exact .quoted hsegments (Text.strip_eq_iff.mp rfl)

/-! ## Lines that are put together by the grammar -/

/-- A text in quotes. -/
def quote (text : String) : String :=
  "\"" ++ text ++ "\""

/-- **A name that can be typed in front of a quote**: there is no quote in it, and no blank at
either end of it. -/
structure IsTypable (name : String) : Prop where
  unquoted : '"' ∉ name.toList
  front : ∀ c ∈ name.toList.head?, Text.isBlank c = false
  back : ∀ c ∈ name.toList.getLast?, Text.isBlank c = false

/-- A text that stripping leaves alone can be typed. -/
theorem isTypable_of_strip {name : String} (hquote : '"' ∉ name.toList)
    (hstrip : Text.strip name.toList = name.toList) : IsTypable name :=
  ⟨hquote, (Text.strip_eq_iff.mp hstrip).front, (Text.strip_eq_iff.mp hstrip).back⟩

/-- There is one more segment than there are quotes. -/
theorem length_segments (line : String) :
    (segments line).length = line.toList.count '"' + 1 := by
  unfold segments
  induction line.toList with
  | nil => rfl
  | cons c rest ih =>
    rw [List.splitOn_cons_eq_if_modifyHead]
    by_cases hc : c = '"'
    · rw [if_pos (beq_iff_eq.mpr hc), List.length_cons, ih, hc, List.count_cons_self]
    · rw [if_neg (by rwa [beq_iff_eq]), List.length_modifyHead, ih, List.count_cons_of_ne hc]

/-- A text without quotes is one segment. -/
theorem segments_of_free {line : String} (h : '"' ∉ line.toList) :
    segments line = [line.toList] :=
  List.splitOn_eq_singleton h

/-- The segments of a line with a text in quotes. -/
theorem segments_quote {front text : String} (hfront : '"' ∉ front.toList)
    (htext : '"' ∉ text.toList) (rest : String) :
    segments (front ++ quote text ++ rest) = front.toList :: text.toList :: segments rest := by
  have hline : (front ++ quote text ++ rest).toList =
      front.toList ++ '"' :: (text.toList ++ '"' :: rest.toList) := by
    simp only [quote, String.toList_append, List.append_assoc]
    rfl
  rw [segments, hline, List.splitOn_append_cons_self, List.splitOn_append_cons_self,
    List.splitOn_eq_singleton hfront, List.splitOn_eq_singleton htext]
  rfl

/-- A name is in front of blanks and a quote as it is typed. -/
theorem IsTypable.isStripped {name gap : String} (h : IsTypable name)
    (hgap : Text.IsBlanks gap.toList) : Text.IsStripped name.toList (name ++ gap).toList :=
  ⟨h.front, h.back, [], gap.toList, String.toList_append, fun _ hc => (nomatch hc), hgap⟩

/-- There is no quote in a name that can be typed, nor in the blanks behind it. -/
theorem IsTypable.free_append {name gap : String} (h : IsTypable name)
    (hgap : Text.IsBlanks gap.toList) : '"' ∉ (name ++ gap).toList := by
  rw [String.toList_append, List.mem_append, not_or]
  exact ⟨h.unquoted, fun hquote => absurd (hgap _ hquote) (by decide)⟩

/-- The arguments of a typed name and what is in quotes behind it. -/
theorem ofLine_quote {name gap first : String} (hname : IsTypable name)
    (hgap : Text.IsBlanks gap.toList) (hfirst : '"' ∉ first.toList) (rest : String) :
    ofLine (name ++ gap ++ quote first ++ rest) =
      ⟨name, first :: ((closedSegments (segments rest)).take 1).map .ofList⟩ := by
  have hsegments : segments (name ++ gap ++ quote first ++ rest) =
      (name ++ gap).toList :: first.toList :: segments rest :=
    segments_quote (hname.free_append hgap) hfirst rest
  have hclosed : closedSegments (segments (name ++ gap ++ quote first ++ rest)) =
      first.toList :: closedSegments (segments rest) := by
    rw [hsegments, segments, closedSegments_splitOn]
  have hreads := Reads.quoted hsegments (hname.isStripped hgap)
  rw [hclosed, List.take_succ_cons, List.map_cons, String.ofList_toList, String.ofList_toList]
    at hreads
  exact (reads_ofLine _).unique hreads

/-- **Lines are read by the grammar.** A line is read as a command if and only if its segments, one
more than it has quotes, say so. So a name and one or two texts in quotes are read back as they are,
when there are blanks behind the name, no quote between the texts, and behind the last of two
anything. -/
theorem ofLine_grammar :
    (∀ line command, ofLine line = command ↔ Reads line command) ∧
      (∀ line, (segments line).length = line.toList.count '"' + 1) ∧
      ∀ name gap first : String, IsTypable name → Text.IsBlanks gap.toList →
        '"' ∉ first.toList →
        (∀ rest : String, '"' ∉ rest.toList →
          ofLine (name ++ gap ++ quote first ++ rest) = ⟨name, [first]⟩) ∧
        ∀ between second rest : String, '"' ∉ between.toList → '"' ∉ second.toList →
          ofLine (name ++ gap ++ quote first ++ (between ++ quote second ++ rest)) =
            ⟨name, [first, second]⟩ := by
  refine ⟨fun line command => ?_, length_segments, fun name gap first hname hgap hfirst => ⟨?_, ?_⟩⟩
  · constructor
    · rintro rfl
      exact reads_ofLine line
    · exact (reads_ofLine line).unique
  · intro rest hrest
    rw [ofLine_quote hname hgap hfirst, segments_of_free hrest]
    rfl
  · intro between second rest hbetween hsecond
    rw [ofLine_quote hname hgap hfirst, segments_quote hbetween hsecond]
    rw [segments, closedSegments_splitOn, List.take_succ_cons, List.map_cons, String.ofList_toList]
    rfl

/-- Two arguments with a word between them, and a third behind them. -/
theorem ofLine_grammar_sample :
    ofLine ("append" ++ "  " ++ quote "my notes.txt" ++ (" to " ++ quote "" ++ " \"c\"")) =
      ⟨"append", ["my notes.txt", ""]⟩ := by
  have hname : IsTypable "append" := isTypable_of_strip (by decide) (by decide)
  have hgap : Text.IsBlanks "  ".toList := List.all_eq_true.mp (by decide)
  exact (ofLine_grammar.2.2 "append" "  " "my notes.txt" hname hgap (by decide)).2
    " to " "" " \"c\"" (by decide) (by decide)

end NamenodeShell.Command
