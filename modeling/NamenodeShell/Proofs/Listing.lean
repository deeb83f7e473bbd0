import Mathlib.Data.List.Forall2
import Mathlib.Data.List.Lex
import NamenodeShell.Listing
import NamenodeShell.Proofs.Entry
import NamenodeShell.Proofs.Markup.Runs

/-!
# Listings in order

The order of a listing is the order of kinds and, within a kind, of names, and there is no more to
an entry than these two: entries that are level are the same (`Precedes.antisymm`). So the order of
a listing is determined by what is in it (`grouped_eq_of_perm`), and so are its lines.

Every line can be shown, whatever the name in it, and is drawn as the kind of the entry says
(`line_drawn`): the name is escaped, and of the tags around it each opening one has its closing one
behind it (`Markup.render_within`). The sign of the kind stands in front of the name and keeps the
lines of entries apart from that of a directory without entries (`Shows.empty`).
-/
set_option autoImplicit false

namespace NamenodeShell

/-! ## The order of texts -/

namespace Text

/-- The codes of a text. -/
def codes (s : String) : List Nat :=
  s.toList.map codeOf

/-- **The order of texts is that of their codes**, the first that differ deciding. -/
theorem inOrder_iff (as bs : List Char) :
    inOrder as bs = true ↔ as.map codeOf ≤ bs.map codeOf := by
  rw [← not_lt]
  induction as generalizing bs with
  | nil => simp [inOrder]
  | cons a as ih =>
    cases bs with
    | nil => simp [inOrder]
    | cons b bs =>
      rw [inOrder_cons, ih, List.map_cons, List.map_cons, List.cons_lt_cons_iff]
      rcases lt_trichotomy (codeOf a) (codeOf b) with hlt | heq | hgt
      -- The first character decides, unless it is the same in both.
      · exact iff_of_true (.inl hlt) (by omega)
      · simp [codeOf_injective heq]
      · refine iff_of_false ?_ (not_not_intro (.inl hgt))
        rintro (hlt | ⟨rfl, -⟩) <;> omega

/-- Texts with the same codes are the same. -/
theorem codes_injective {s t : String} (h : codes s = codes t) : s = t :=
  String.toList_inj.mp (List.map_injective_iff.mpr (fun _ _ => codeOf_injective) h)

end Text

/-! ## The order of entries -/

/-- No two kinds stand at one place in the order of a listing. -/
theorem Kind.rank_injective {k l : Kind} (h : k.rank = l.rank) : k = l := by
  cases k <;> cases l <;> first | rfl | cases h

namespace Entry

variable {entries entries' : List Entry} {a b c : Entry}

/-- **One entry may stand before another**: its kind comes first, or they are of one kind and the
codes of its name do not come later. -/
def Precedes (a b : Entry) : Prop :=
  a.kind.rank < b.kind.rank ∨ a.kind = b.kind ∧ Text.codes a.name ≤ Text.codes b.name

/-- What the entries of a listing are sorted by is that order. -/
theorem byKind_iff : byKind a b = true ↔ Precedes a b := by
  unfold byKind byName Precedes
  split
  next h => simp [h, Text.inOrder_iff, Text.codes]
  next h => simp [h]

/-- The order of entries is transitive, as sorting asks. -/
theorem Precedes.trans (h : Precedes a b) (h' : Precedes b c) : Precedes a c := by
  obtain h | ⟨hkind, hname⟩ := h
  · obtain h' | ⟨hkind', -⟩ := h'
    · exact .inl (h.trans h')
    · exact .inl (hkind' ▸ h)
  · obtain h' | ⟨hkind', hname'⟩ := h'
    · exact .inl (hkind ▸ h')
    · exact .inr ⟨hkind.trans hkind', hname.trans hname'⟩

/-- Of two entries one may stand before the other, as sorting asks. -/
theorem precedes_total (a b : Entry) : Precedes a b ∨ Precedes b a := by
  rcases Nat.lt_trichotomy a.kind.rank b.kind.rank with hlt | heq | hgt
  · exact .inl (.inl hlt)
  · have hkind := Kind.rank_injective heq
    exact (le_total (Text.codes a.name) (Text.codes b.name)).imp
      (fun h => .inr ⟨hkind, h⟩) (fun h => .inr ⟨hkind.symm, h⟩)
  · exact .inr (.inl hgt)

/-- **Entries that are level are the same**: what comes first in a listing is all there is to an
entry. -/
theorem Precedes.antisymm (h : Precedes a b) (h' : Precedes b a) : a = b := by
  obtain h | ⟨hkind, hname⟩ := h
  · obtain h' | ⟨hkind', -⟩ := h'
    · omega
    · rw [hkind'] at h
      exact absurd h (Nat.lt_irrefl _)
  · obtain h' | ⟨-, hname'⟩ := h'
    · rw [hkind] at h'
      exact absurd h' (Nat.lt_irrefl _)
    · cases a
      cases b
      exact congrArg₂ Entry.mk (Text.codes_injective (hname.antisymm hname')) hkind

/-- Sorting neither loses an entry nor makes one up. -/
theorem grouped_perm (entries : List Entry) : (grouped entries).Perm entries :=
  List.mergeSort_perm entries byKind

/-- **The entries of a listing are in order.** -/
theorem grouped_sorted (entries : List Entry) : (grouped entries).Pairwise Precedes := by
  have htrans (a b c : Entry) : byKind a b = true → byKind b c = true → byKind a c = true := by
    simpa only [byKind_iff] using Precedes.trans
  have htotal (a b : Entry) : (byKind a b || byKind b a) = true := by
    rw [Bool.or_eq_true, byKind_iff, byKind_iff]
    exact precedes_total a b
  exact (List.pairwise_mergeSort htrans htotal entries).imp byKind_iff.mp

/-- **The order of a listing is one**, whatever order the entries came in. -/
theorem grouped_eq_of_perm (h : entries.Perm entries') : grouped entries = grouped entries' := by
  -- Two sorted lists with the same entries are equal, because entries that are level are the same.
  refine List.Perm.eq_of_pairwise (fun a b _ _ => Precedes.antisymm) ?_ ?_ ?_
  · exact grouped_sorted entries
  · exact grouped_sorted entries'
  · exact (grouped_perm entries).trans (h.trans (grouped_perm entries').symm)

end Entry

/-- Lines are rendered as texts, one by one. -/
abbrev Markup.Renders (lines : List String) (texts : List Markup.Styled) : Prop :=
  List.Forall₂ (fun line text => Markup.render line = .ok text) lines texts

namespace Listing

variable {entries entries' : List Entry}

/-! ## The lines -/

/-- What stands in front of the name of an entry, -/
def opening : Kind → String
  | .directory => "    📁 [bold cyan]"
  | .symlink => "    📂 [cyan]"
  | .file => "    📄 "
  | .other => "    [yellow]?[/yellow] "

/-- and behind it. -/
def closing : Kind → String
  | .directory => "/[/bold cyan]"
  | .symlink => "@[/cyan]"
  | .file => ""
  | .other => " (neither file nor directory)"

/-- A line is the escaped name between what belongs to the kind. -/
theorem toList_line (e : Entry) : (line e).toList =
    (opening e.kind).toList ++ ((Markup.escape e.name).toList ++ (closing e.kind).toList) := by
  obtain ⟨name, kind⟩ := e
  have hline : line ⟨name, kind⟩ = opening kind ++ Markup.escape name ++ closing kind := by
    cases kind
    case file => exact (String.append_empty ..).symm
    all_goals rfl
  rw [hline, String.toList_append, String.toList_append, List.append_assoc]

/-- **The lines of a listing**: one for each entry, in order, or the one of a directory without
entries. -/
theorem lines_eq (entries : List Entry) : lines entries =
    if entries = [] then [emptyLine] else (Entry.grouped entries).map line := by
  have hlength := (Entry.grouped_perm entries).length_eq
  unfold lines
  split
  next hnil =>
    rw [hnil, List.length_nil] at hlength
    rw [if_pos (List.eq_nil_of_length_eq_zero hlength.symm)]
  next hne =>
    have hentries : entries ≠ [] := by
      rintro rfl
      exact hne (List.eq_nil_of_length_eq_zero hlength)
    rw [if_neg hentries]

/-- The lines do not depend on the order in which the service or the disk gave the entries. -/
theorem lines_eq_of_perm (h : entries.Perm entries') : lines entries = lines entries' := by
  rw [lines, lines, Entry.grouped_eq_of_perm h]

/-! ## What is shown -/

/-- What is shown in front of the name of an entry, -/
def shownOpening : Kind → List Char
  | .directory => "    📁 ".toList
  | .symlink => "    📂 ".toList
  | .file => "    📄 ".toList
  | .other => "    ? ".toList

/-- and behind it. -/
def shownClosing : Kind → List Char
  | .directory => ['/']
  | .symlink => ['@']
  | .file => []
  | .other => " (neither file nor directory)".toList

/-- What is shown of a name by itself. -/
def shownName (name : String) : List Char :=
  Markup.shownOf (Markup.pieces (Markup.escape name).toList)

/-- **The text of a line** that shows a name. -/
def drawn (name : List Char) : Kind → Markup.Styled
  | .directory => .within "    📁 ".toList .boldCyan (name ++ ['/']) []
  | .symlink => .within "    📂 ".toList .cyan (name ++ ['@']) []
  | .file => .ofChars ("    📄 ".toList ++ name)
  | .other =>
    .within "    ".toList .yellow ['?'] (' ' :: (name ++ " (neither file nor directory)".toList))

/-- The tags of a line. -/
def tags : Kind → List (List Char)
  | .directory => ["bold cyan".toList, "/bold cyan".toList]
  | .symlink => ["cyan".toList, "/cyan".toList]
  | .file => []
  | .other => ["yellow".toList, "/yellow".toList]

theorem chars_drawn (name : List Char) (kind : Kind) :
    (drawn name kind).chars = shownOpening kind ++ (name ++ shownClosing kind) := by
  -- Said of any words, so that those of the shell are not taken apart.
  have hstyled (front : List Char) (style : Markup.Style) (cs : List Char) :
      (Markup.Styled.within front style cs []).chars = front ++ cs :=
    congrArg (front ++ ·) (List.append_nil cs)
  have hsigned (front : List Char) (style : Markup.Style) (sign : Char) (cs : List Char) :
      (Markup.Styled.within front style [sign] (' ' :: cs)).chars = front ++ [sign, ' '] ++ cs :=
    (List.append_assoc front [sign, ' '] cs).symm
  cases kind with
  | directory => exact hstyled _ _ _
  | symlink => exact hstyled _ _ _
  | file => exact congrArg (_ ++ ·) (List.append_nil name).symm
  | other =>
    have hsign : "    ".toList ++ ['?', ' '] = "    ? ".toList := by
      decide
    exact (hsigned _ _ _ _).trans (congrArg (· ++ _) hsign)

/-- Escaped text and plain words behind it. -/
theorem literal_behind {plain : List Char} (hplain : Markup.IsPlain plain) (name : String) :
    Markup.IsLiteralText ((Markup.escape name).toList ++ plain) ∧
      Markup.shownOf (Markup.pieces ((Markup.escape name).toList ++ plain)) =
        shownName name ++ plain := by
  refine ⟨(Markup.isLiteralText_escape name).append_plain hplain, ?_⟩
  rw [Markup.pieces, Markup.scan_append_plain hplain, Markup.shownOf_append_plain hplain]
  rfl

/-- **A line with a style**: the name is in it, and one character more. -/
theorem line_drawn_in {e : Entry} {tag front : List Char} {style : Markup.Style} {sign : Char}
    (h : Markup.IsStyle tag style) (hfront : Markup.IsFront front)
    (hsign : sign ≠ '[' ∧ sign ≠ ']' ∧ sign ≠ '\\')
    (hopening : (opening e.kind).toList = front ++ Markup.bracketed tag)
    (hclosing : (closing e.kind).toList = sign :: Markup.bracketed ('/' :: tag)) :
    Markup.render (line e) = .ok (.within front style (shownName e.name ++ [sign]) []) ∧
      Markup.tagsRead (line e) = [tag, '/' :: tag] := by
  have hplain : Markup.IsPlain [sign] := by
    intro c hc
    rw [List.mem_singleton.mp hc]
    exact ⟨hsign.1, hsign.2.1⟩
  obtain ⟨hliteral, hshown⟩ := literal_behind hplain e.name
  have hlast : ((Markup.escape e.name).toList ++ [sign]).getLast? ≠ some '\\' := by
    rw [List.getLast?_concat]
    exact fun heq => hsign.2.2 (Option.some.inj heq)
  have hmarkup : (line e).toList = front ++ (Markup.bracketed tag ++
      (((Markup.escape e.name).toList ++ [sign]) ++ (Markup.bracketed ('/' :: tag) ++ []))) := by
    rw [toList_line, hopening, hclosing]
    simp only [List.append_assoc, List.append_nil, List.singleton_append]
  have hnothing : Markup.IsFront [] := ⟨by decide, by decide⟩
  have hrender := Markup.render_within h hfront hliteral hlast hnothing.isLiteralText hmarkup
  rw [hshown, Markup.shownOf_pieces_front hnothing] at hrender
  exact ⟨hrender, Markup.tagsRead_within h hfront hliteral hlast hnothing.isLiteralText hmarkup⟩

/-- **The line of an entry is drawn as its kind is**, whatever its name is, and its tags are those
of its kind. -/
theorem line_drawn (e : Entry) : Markup.render (line e) = .ok (drawn (shownName e.name) e.kind) ∧
    Markup.tagsRead (line e) = tags e.kind := by
  have hline := toList_line e
  cases hkind : e.kind with
  | directory =>
    exact line_drawn_in Markup.isStyle_boldCyan ⟨by decide, by decide⟩ (by decide)
      (by rw [hkind]; rfl) (by rw [hkind]; rfl)
  | symlink =>
    exact line_drawn_in Markup.isStyle_cyan ⟨by decide, by decide⟩ (by decide)
      (by rw [hkind]; rfl) (by rw [hkind]; rfl)
  | file =>
    have hfront : Markup.IsFront "    📄 ".toList := ⟨by decide, by decide⟩
    have hmarkup : (line e).toList = "    📄 ".toList ++ (Markup.escape e.name).toList := by
      rw [hline, hkind]
      exact congrArg _ (List.append_nil _)
    refine ⟨Markup.render_behind hfront hmarkup, Markup.IsLiteralText.tagsRead_eq_nil ?_⟩
    rw [hmarkup]
    exact (Markup.isLiteralText_escape e.name).behind hfront
  | other =>
    have hall : " (neither file nor directory)".toList.all (fun c => c != '[' && c != ']') = true :=
      by decide
    have hplain : Markup.IsPlain " (neither file nor directory)".toList := by
      intro c hc
      simpa using List.all_eq_true.mp hall c hc
    have hfront : Markup.IsFront "    ".toList := ⟨by decide, by decide⟩
    have hspace : Markup.IsFront [' '] := ⟨by decide, by decide⟩
    have hsign : Markup.IsFront ['?'] := ⟨by decide, by decide⟩
    obtain ⟨hliteral, hshown⟩ := literal_behind hplain e.name
    have hmarkup : (line e).toList = "    ".toList ++ (Markup.bracketed "yellow".toList ++
        (['?'] ++ (Markup.bracketed ('/' :: "yellow".toList) ++ ([' '] ++
          ((Markup.escape e.name).toList ++ " (neither file nor directory)".toList))))) := by
      rw [hline, hkind]
      rfl
    have hrender := Markup.render_within Markup.isStyle_yellow hfront hsign.isLiteralText
      hsign.no_backslash (hliteral.behind hspace) hmarkup
    rw [Markup.shownOf_pieces_front hsign, Markup.pieces_front hspace,
      Markup.shownOf_front hspace, hshown, List.singleton_append] at hrender
    exact ⟨hrender, Markup.tagsRead_within Markup.isStyle_yellow hfront hsign.isLiteralText
      hsign.no_backslash (hliteral.behind hspace) hmarkup⟩

/-- **The line of an entry can be shown**, whatever its name is: behind the sign of its kind there
is the name, if it is one that is kept, and what tells of the kind behind it. -/
theorem line_shown (e : Entry) : ∃ text rest, Markup.render (line e) = .ok text ∧
    text.chars = shownOpening e.kind ++ rest ∧
    (Markup.IsKept e.name.toList → rest = e.name.toList ++ shownClosing e.kind) := by
  refine ⟨drawn (shownName e.name) e.kind, shownName e.name ++ shownClosing e.kind,
    (line_drawn e).1, chars_drawn _ _, fun hkept => ?_⟩
  rw [shownName, Markup.shownOf_escape hkept]

/-- What is shown of a directory without entries. -/
def emptyText : Markup.Styled :=
  .ofChars emptyLine.toList

/-- The line of a directory without entries can be shown: there is no name in it. -/
theorem emptyLine_shown : Markup.render emptyLine = .ok emptyText :=
  Markup.render_front ⟨by decide, by decide⟩

/-- **An entry is shown by a text**: that of its line. A name that is kept stands in it as it is,
between what tells of the kind. -/
structure ShownBy (e : Entry) (text : Markup.Styled) : Prop where
  line : Markup.render (line e) = .ok text
  name : Markup.IsKept e.name.toList →
    text.chars = shownOpening e.kind ++ (e.name.toList ++ shownClosing e.kind)

/-- No entry is shown as a directory without entries is. -/
theorem ShownBy.ne_emptyText {e : Entry} {text : Markup.Styled} (h : ShownBy e text) :
    text ≠ emptyText := by
  -- All of them begin with four blanks; the sign behind these tells them apart.
  have hopening : ∀ k, 4 < (shownOpening k).length ∧
      (shownOpening k)[4]? ≠ emptyText.chars[4]? := by
    intro k
    cases k <;> decide
  obtain ⟨hlong, hdiffers⟩ := hopening e.kind
  obtain ⟨text', rest, htext, hchars, -⟩ := line_shown e
  rintro rfl
  cases h.line.symm.trans htext
  apply hdiffers
  rw [hchars, List.getElem?_append_left hlong]

/-- Every entry is shown by some text. -/
theorem exists_shownBy (e : Entry) : ∃ text, ShownBy e text := by
  obtain ⟨text, rest, htext, hchars, hname⟩ := line_shown e
  exact ⟨text, htext, fun hkept => by rw [hchars, hname hkept]⟩

/-- **A listing is shown by texts**: one for each entry, in order, or the one of a directory without
entries, which is there just when there are none. -/
structure Shows (entries : List Entry) (texts : List Markup.Styled) : Prop where
  each : entries ≠ [] → List.Forall₂ ShownBy (Entry.grouped entries) texts
  empty : texts = [emptyText] ↔ entries = []

/-- **A listing can be shown**, line by line. -/
theorem lines_shown (entries : List Entry) :
    ∃ texts, Shows entries texts ∧ Markup.Renders (lines entries) texts := by
  by_cases hentries : entries = []
  · refine ⟨[emptyText], ⟨fun h => absurd hentries h, iff_of_true rfl hentries⟩, ?_⟩
    rw [lines_eq, if_pos hentries]
    exact .cons emptyLine_shown .nil
  · obtain ⟨texts, htexts⟩ : ∃ texts, List.Forall₂ ShownBy (Entry.grouped entries) texts := by
      induction Entry.grouped entries with
      | nil => exact ⟨[], .nil⟩
      | cons e es ih =>
        obtain ⟨text, htext⟩ := exists_shownBy e
        obtain ⟨texts, htexts⟩ := ih
        exact ⟨text :: texts, .cons htext htexts⟩
    refine ⟨texts, ⟨fun _ => htexts, iff_of_false ?_ hentries⟩, ?_⟩
    · rintro rfl
      obtain ⟨e, _, he, -, -⟩ := List.forall₂_cons_right_iff.mp htexts
      exact he.ne_emptyText rfl
    · rw [lines_eq, if_neg hentries]
      exact List.forall₂_map_left_iff.mpr (htexts.imp fun _ _ h => h.line)

end Listing

end NamenodeShell
