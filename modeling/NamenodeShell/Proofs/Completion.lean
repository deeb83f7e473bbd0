import NamenodeShell.Completion
import NamenodeShell.Proofs.Command
import NamenodeShell.Proofs.Entry
import NamenodeShell.Proofs.Session.Commands

/-!
# What is offered, and how it is read

An offer is accepted by putting its text in place of the last characters (`Completion.accept`). The
line that comes of it is read the way it was completed. Where a name was completed behind an open
quote, the command and the arguments in front are those of the text, and the name stands behind them
as it is unless there is a quote in it (`continues_accept`). Where a command was completed, the line
is that command (`ofLine_accept_command`). Whoever completes and whoever reads find the name of the
command, the number of the argument and the open quote by different means, so it takes a cut at the
last quote to compare them (`exists_front`).

What is offered of a directory that can be listed are the entries that fit, in order of names, as
long as the names in the listing are texts (`sideOffers_of_lists`, `ofEntries_eq`). If one is not, a
failure may get out (`offers_loses_listing`).
-/
set_option autoImplicit false

namespace NamenodeShell

open Shell

namespace Completion

/-! ## Accepting an offer -/

/-- **The line that comes of accepting an offer.** -/
def accept (text : String) (c : Completion) : String :=
  .ofList (text.toList.take (text.toList.length - c.replaced) ++ c.text.toList)

/-- The offer of an entry. -/
def ofEntry (partialName : List Char) (e : Entry) : Completion where
  text := e.name ++ "\""
  replaced := partialName.length
  display := if e.kind = .directory then e.name ++ "/" else e.name

/-- An offer that replaces the last characters leaves the others. -/
theorem accept_append (front back : List Char) (c : Completion) (h : c.replaced = back.length) :
    accept (.ofList (front ++ back)) c = .ofList (front ++ c.text.toList) := by
  rw [accept, String.toList_ofList, h, List.length_append, Nat.add_sub_cancel, List.take_left]

/-- The offer of an entry replaces the word behind the open quote and closes the quote. -/
theorem accept_ofEntry (front word : List Char) (e : Entry) :
    accept (.ofList (front ++ '"' :: word)) (ofEntry word e) =
      .ofList (front ++ '"' :: (e.name.toList ++ ['"'])) := by
  have haccept := accept_append (front ++ ['"']) word (ofEntry word e) rfl
  rw [ofEntry, String.toList_append, List.append_assoc, List.append_assoc] at haccept
  exact haccept

/-! ## Behind an open quote -/

/-- The name of the command that is looked up. -/
def lookedUp (text : String) : String :=
  .ofList (Text.strip (text.toList.takeWhile (· ≠ '"')))

/-- The number of the argument that is completed. -/
def position (text : String) : Nat :=
  text.toList.count '"' / 2

/-- **A text is cut at its last quote.** -/
theorem exists_front {cs : List Char} (h : '"' ∈ cs) :
    ∃ front, cs = front ++ '"' :: partialName cs ∧ '"' ∉ partialName cs := by
  obtain ⟨back, front, hcut, hback⟩ := List.eq_append_cons_of_mem (List.mem_reverse.mpr h)
  have hcs : cs = front.reverse ++ '"' :: back.reverse := by
    rw [← List.reverse_reverse cs, hcut, List.reverse_append, List.reverse_cons, List.append_assoc]
    rfl
  have hpartial : partialName cs = back.reverse := by
    rw [partialName, hcut, Command.takeWhile_quote]
    congr 1
    refine List.takeWhile_eq_self_iff.mpr fun c hc => decide_eq_true ?_
    rintro rfl
    exact hback hc
  rw [hpartial]
  exact ⟨front.reverse, hcs, fun hmem => hback (List.mem_reverse.mp hmem)⟩

/-- **A line continues a text by an entry**: it is read as the text is, with the name of the entry
for the argument that is completed, and that one is the last; but for names with a quote in them. -/
structure Continues (text : String) (v : Verb) (e : Entry) (line : Command) : Prop where
  command : line.name = v.word ∧ (Command.ofLine text).name = v.word
  before : line.args.take (position text) = (Command.ofLine text).args
  entry : line.args[position text]? = some e.name ↔ '"' ∉ e.name.toList
  last : '"' ∉ e.name.toList → line.args.length = position text + 1

/-- There is room for every argument that names an entry. -/
theorem side?_position {v : Verb} {n : Nat} {side : Side} (h : side? v n = some side) :
    n < Command.maxArgs := by
  unfold side? at h
  split at h
  all_goals first | decide | cases h

/-- What is read of a name that is closed by a quote: the name, unless there is a quote in it. -/
theorem quotedTexts_name (name : List Char) :
    ∃ x xs, Command.quotedTexts (some []) (name ++ ['"']) = x :: xs ∧
      (x = name ↔ '"' ∉ name) ∧ ('"' ∉ name → xs = []) := by
  -- A quote in the name closes the argument early; without one it is closed by the quote behind it.
  by_cases hquote : '"' ∈ name
  · obtain ⟨a, b, rfl, ha⟩ := List.eq_append_cons_of_mem hquote
    refine ⟨a, Command.quotedTexts none (b ++ ['"']), ?_, ?_, fun h => absurd hquote h⟩
    · rw [List.append_assoc]
      exact Command.quotedTexts_closed [] ha _
    · refine iff_of_false (fun heq => ha ?_) (fun h => h hquote)
      rw [heq]
      exact hquote
  · exact ⟨name, [], Command.quotedTexts_closed [] hquote [], iff_of_true rfl hquote, fun _ => rfl⟩

/-- **An entry that is offered is read as it should be** once the offer is accepted. -/
theorem continues_accept {text : String} {v : Verb} {side : Side}
    (hodd : text.toList.count '"' % 2 = 1) (hv : Verb.ofWord? (lookedUp text) = some v)
    (hside : side? v (position text) = some side) (e : Entry) :
    Continues text v e
      (Command.ofLine ((ofEntry (partialName text.toList) e).accept text)) := by
  have hmem : '"' ∈ text.toList := List.count_pos_iff.mp (by omega)
  obtain ⟨front, hcut, hpartial⟩ := exists_front hmem
  generalize partialName text.toList = word at hcut hpartial ⊢
  obtain rfl : text = .ofList (front ++ '"' :: word) := by rw [← hcut, String.ofList_toList]
  have hcount : (front ++ '"' :: word).count '"' = front.count '"' + 1 := by
    rw [List.count_append, List.count_cons_self, List.count_eq_zero_of_not_mem hpartial]
  rw [String.toList_ofList, hcount] at hodd
  -- In front of the last quote there is an even number of others, so that the completion and the
  -- reader agree on which argument this is.
  have heven : front.count '"' % 2 = 0 := by omega
  have hposition : position (.ofList (front ++ '"' :: word)) =
      (Command.quotedTexts none front).length := by
    rw [position, String.toList_ofList, hcount, Command.length_quotedTexts, Command.opened_none]
    omega
  have hroom : (Command.quotedTexts none front).length < Command.maxArgs :=
    hposition ▸ side?_position hside
  have hname (rest : List Char) :
      (Command.ofLine (.ofList (front ++ '"' :: rest))).name = v.word := by
    rw [Command.ofLine_name, ← Verb.word_of_ofWord? hv, lookedUp, String.toList_ofList,
      Command.takeWhile_quote]
  obtain ⟨x, xs, hread, hx, hxs⟩ := quotedTexts_name e.name.toList
  obtain ⟨htake, hentry⟩ := Command.ofLine_args_behind heven hroom hread
  rw [accept_ofEntry]
  refine ⟨⟨hname _, hname _⟩, ?_, ?_, fun hquote => ?_⟩
  · rw [hposition, htake, Command.ofLine_args_open heven hroom hpartial]
  · rw [hposition, hentry, ← hx, Option.some.injEq]
    exact ⟨fun h => by rw [← h, String.toList_ofList], fun h => by rw [h, String.ofList_toList]⟩
  · rw [hposition, Command.ofLine_args heven, hread, hxs hquote, List.length_map,
      List.length_take, List.length_append]
    exact Nat.min_eq_right hroom

/-! ## Commands -/

/-- The words of commands have neither blanks nor quotes in them. -/
theorem word_plain (v : Verb) : ∀ c ∈ v.word.toList, Text.isBlank c = false ∧ c ≠ '"' := by
  have hall : v.word.toList.all (fun c => !Text.isBlank c && c != '"') = true := by
    cases v <;> decide
  intro c hc
  simpa using List.all_eq_true.mp hall c hc

/-- **A command that is offered is what is read** once the offer is accepted. -/
theorem ofLine_accept_command {text : String} {c : Completion}
    (h : c ∈ commands text.toList) :
    ∃ v : Verb, c.text = v.word ∧ Command.ofLine (c.accept text) = ⟨v.word, []⟩ := by
  unfold commands at h
  simp only at h
  split at h
  next => cases h
  next =>
    obtain ⟨v, -, rfl⟩ := List.mem_map.mp h
    refine ⟨v, rfl, ?_⟩
    have htext : text = .ofList
        (text.toList.takeWhile Text.isBlank ++ Text.dropBlanks text.toList) := by
      rw [Text.dropBlanks, List.takeWhile_append_dropWhile, String.ofList_toList]
    generalize hword : Text.dropBlanks text.toList = word at htext ⊢
    rw [htext, accept_append _ word _ rfl, Command.ofLine_word _ (word_plain v),
      String.ofList_toList]
    exact fun c hc => List.mem_takeWhile_imp hc

/-- In front of any quote commands are offered, and nothing is asked. -/
theorem offers_of_not_mem {s : Session} {text : String} (h : '"' ∉ text.toList) :
    offers s text = pure (commands text.toList) := by
  unfold offers
  simp only
  rw [if_pos (List.count_eq_zero_of_not_mem h)]

/-! ## Entries -/

/-- **An entry fits**: it continues the word, and it is a directory where only these will do. -/
def Fits (v : Verb) (word : List Char) (e : Entry) : Prop :=
  (v = .cd ∨ v = .lcd → e.kind = .directory) ∧ word <+: e.name.toList

instance (v : Verb) (word : List Char) (e : Entry) : Decidable (Fits v word e) :=
  inferInstanceAs (Decidable (_ ∧ _))

/-- What is offered are the entries that fit, in the order of their names. -/
theorem ofEntries_eq (v : Verb) (word : List Char) (entries : List Entry) :
    ofEntries v word entries =
      ((Entry.alphabetical entries).filter (Fits v word ·)).map (ofEntry word) := by
  have hfits : (fun e : Entry => (!wantsDirectory v || decide (e.kind = .directory)) &&
      word.isPrefixOf e.name.toList) = fun e => decide (Fits v word e) := by
    funext e
    rw [Bool.eq_iff_iff, decide_eq_true_iff, Bool.and_eq_true, List.isPrefixOf_iff_prefix]
    unfold Fits
    cases v <;> simp [wantsDirectory]
  rw [ofEntries, hfits]
  rfl

/-- The offers for an argument on a side. -/
def sideOffers (s : Session) (v : Verb) (word : List Char) : Side → Shell (List Completion)
  | .remote => remoteOffers s v word
  | .local => localOffers s v word

/-- **Behind an open quote** the command decides which side is listed, if any; and a side that
cannot be listed gives no offers. -/
theorem offers_of_odd {s : Session} {text : String} (hodd : text.toList.count '"' % 2 = 1) :
    offers s text = match Verb.ofWord? (lookedUp text) with
      | none => pure []
      | some v => match side? v (position text) with
        | some side => orNone (sideOffers s v (partialName text.toList) side)
        | none => pure [] := by
  unfold offers
  simp only
  rw [if_neg (by omega), if_neg (by omega)]
  unfold lookedUp position
  cases Verb.ofWord? (.ofList (Text.strip (text.toList.takeWhile (· ≠ '"')))) with
  | none => rfl
  | some v =>
    cases hside : side? v (text.toList.count '"' / 2) with
    | none => simp only [hside]
    | some side => cases side <;> (simp only [hside]; rfl)

/-- **A side has been listed**: the current directory there, and all the names are texts. -/
inductive Lists (s : Session) (w : Surroundings) : Side → List Entry → Surroundings → Prop
  | remote {cwd : String} {rows : List Listing.Row} {entries : List Entry} {w' : Surroundings}
      (hcwd : s.remote = .path cwd) (hrows : outcome (s.client.list cwd) w = (.ok rows, w'))
      (hentries : Listing.entries? rows = some entries) : Lists s w .remote entries w'
  | «local» {entries : List Entry} {w' : Surroundings}
      (hentries : outcome (Session.localEntries s.localDir) w = (.ok entries, w')) :
      Lists s w .local entries w'

variable {s : Session} {w w' : Surroundings} {v : Verb} {word : List Char} {side : Side}

/-- **What is offered of a directory that can be listed.** -/
theorem sideOffers_of_lists {entries : List Entry} (h : Lists s w side entries w') :
    outcome (sideOffers s v word side) w = (.ok (ofEntries v word entries), w') := by
  cases h with
  | remote hcwd hrows hentries =>
    simp only [sideOffers, remoteOffers, hcwd, Remote.here, lift_ok_bind]
    rw [outcome_bind_of_ok hrows, hentries]
    rfl
  | «local» hentries => exact outcome_bind_of_ok hentries

/-- Rows that are not all entries give no offers. -/
theorem oddRows_eq_ok {rows : List Listing.Row} {offered : List Completion}
    (h : oddRows v rows = .ok offered) : offered = [] := by
  unfold oddRows at h
  cases hsort : Sorting.sort Listing.Row.nameBefore rows with
  | error f =>
    rw [hsort] at h
    cases h
  | ok sorted =>
    simp only [hsort, bind, Except.bind] at h
    split at h
    next => exact (Except.ok.inj h).symm
    next => cases h

/-- Whatever is offered for an argument are entries. -/
theorem sideOffers_eq_ok {offered : List Completion}
    (h : outcome (sideOffers s v word side) w = (.ok offered, w')) :
    ∀ c ∈ offered, ∃ e, c = ofEntry word e := by
  have hentries (entries : List Entry) :
      ∀ c ∈ ofEntries v word entries, ∃ e, c = ofEntry word e := by
    intro c hc
    rw [ofEntries_eq] at hc
    obtain ⟨e, -, rfl⟩ := List.mem_map.mp hc
    exact ⟨e, rfl⟩
  cases side with
  | remote =>
    obtain ⟨_, _, -, h⟩ := bind_eq_ok h
    obtain ⟨rows, w₁, -, h⟩ := bind_eq_ok h
    split at h
    next =>
      cases h
      exact hentries _
    next =>
      -- Some row is no entry: there are no offers, or the failure to sort the rows.
      obtain ⟨hodd, -⟩ := Prod.mk.inj h
      rw [oddRows_eq_ok hodd]
      nofun
  | «local» =>
    obtain ⟨_, _, -, h⟩ := bind_eq_ok h
    cases h
    exact hentries _

/-- Offers that are made come of the listing, or there are none. -/
theorem orNone_eq_ok {act : Shell (List Completion)} {offered : List Completion}
    (h : outcome (orNone act) w = (.ok offered, w')) :
    offered = [] ∨ outcome act w = (.ok offered, w') := by
  unfold orNone at h
  rw [outcome_tryCatch] at h
  split at h
  next hact => exact .inr (hact.trans h)
  next =>
    split at h
    next =>
      cases h
      exact .inl rfl
    next => cases h

/-- A listing that succeeds is offered as it is. -/
theorem orNone_of_ok {act : Shell (List Completion)} {offered : List Completion}
    (h : outcome act w = (.ok offered, w')) : outcome (orNone act) w = (.ok offered, w') := by
  unfold orNone
  rw [outcome_tryCatch, h]

/-- A failure that nobody expects of a listing gets out. -/
theorem orNone_of_error {act : Shell (List Completion)} {f : Failure}
    (h : outcome act w = (.error f, w')) (hf : f.isExpected = false) :
    outcome (orNone act) w = (.error f, w') := by
  unfold orNone
  rw [outcome_tryCatch, h]
  simp only [hf, Bool.false_eq_true, if_false]
  rfl

/-- **Whatever is offered behind an open quote** is an entry for an argument that names one. -/
theorem offers_eq_ok {text : String} {offered : List Completion}
    (hodd : text.toList.count '"' % 2 = 1)
    (h : outcome (offers s text) w = (.ok offered, w')) {c : Completion} (hc : c ∈ offered) :
    ∃ v side e, Verb.ofWord? (lookedUp text) = some v ∧ side? v (position text) = some side ∧
      c = ofEntry (partialName text.toList) e := by
  rw [offers_of_odd hodd] at h
  cases hv : Verb.ofWord? (lookedUp text) with
  | none =>
    rw [hv] at h
    cases h
    cases hc
  | some v =>
    rw [hv] at h
    simp only at h
    cases hside : side? v (position text) with
    | none =>
      rw [hside] at h
      cases h
      cases hc
    | some side =>
      rw [hside] at h
      rcases orNone_eq_ok h with rfl | h
      · cases hc
      · obtain ⟨e, he⟩ := sideOffers_eq_ok h c hc
        exact ⟨v, side, e, rfl, hside, he⟩

/-- **What is offered agrees with what is read.** -/
structure Agrees (s : Session) (text : String) (w : Surroundings) : Prop where
  /-- Behind an open quote a line that accepts an offer continues the text by an entry, for the
  command that was looked up. -/
  entry : text.toList.count '"' % 2 = 1 → ∀ offered w',
    outcome (offers s text) w = (.ok offered, w') → ∀ c ∈ offered, ∃ v e,
      Verb.ofWord? (lookedUp text) = some v ∧ c = ofEntry (partialName text.toList) e ∧
      Continues text v e (Command.ofLine (c.accept text))
  /-- When the directory can be listed for an argument that names an entry, what is offered are the
  entries that fit, in order of names. -/
  listed : text.toList.count '"' % 2 = 1 → ∀ v side entries w',
    Verb.ofWord? (lookedUp text) = some v → side? v (position text) = some side →
    Lists s w side entries w' → ∃ es : List Entry,
      outcome (offers s text) w = (.ok (es.map (ofEntry (partialName text.toList))), w') ∧
      es.Perm (entries.filter (Fits v (partialName text.toList) ·)) ∧
      es.Pairwise fun a b => Text.inOrder a.name.toList b.name.toList = true
  /-- In front of any quote a line that accepts an offer is the command that was offered. -/
  command : '"' ∉ text.toList → ∃ offered, outcome (offers s text) w = (.ok offered, w) ∧
    ∀ c ∈ offered, ∃ v : Verb, c.text = v.word ∧ Command.ofLine (c.accept text) = ⟨v.word, []⟩

/-- **What is offered agrees with what is read**, whatever the text is and whatever is listed. -/
theorem offers_agree (s : Session) (text : String) (w : Surroundings) : Agrees s text w where
  entry hodd offered w' h c hc := by
    obtain ⟨v, side, e, hv, hside, rfl⟩ := offers_eq_ok hodd h hc
    exact ⟨v, e, hv, rfl, continues_accept hodd hv hside e⟩
  listed hodd v side entries w' hv hside hlists := by
    refine ⟨(Entry.alphabetical entries).filter (Fits v (partialName text.toList) ·), ?_,
      (Entry.alphabetical_perm entries).filter _, (Entry.alphabetical_sorted entries).filter _⟩
    rw [offers_of_odd hodd, hv]
    simp only
    rw [hside, ← ofEntries_eq]
    exact orNone_of_ok (sideOffers_of_lists hlists)
  command hquote := by
    rw [offers_of_not_mem hquote]
    exact ⟨_, rfl, fun c hc => ofLine_accept_command hc⟩

/-- Rows that are not all entries may make the offers fail. -/
theorem offers_of_oddRows {text cwd : String} {rows : List Listing.Row} {f : Failure}
    (hodd : text.toList.count '"' % 2 = 1) (hv : Verb.ofWord? (lookedUp text) = some v)
    (hside : side? v (position text) = some .remote) (hcwd : s.remote = .path cwd)
    (hrows : outcome (s.client.list cwd) w = (.ok rows, w'))
    (hentries : Listing.entries? rows = none) (hfails : oddRows v rows = .error f)
    (hf : f.isExpected = false) : outcome (offers s text) w = (.error f, w') := by
  have hside' : outcome (sideOffers s v (partialName text.toList) .remote) w = (.error f, w') := by
    simp only [sideOffers, remoteOffers, hcwd, Remote.here, lift_ok_bind]
    rw [outcome_bind_of_ok hrows, hentries, hfails]
    rfl
  rw [offers_of_odd hodd, hv]
  simp only
  rw [hside]
  exact orNone_of_error hside' hf

/-- A service with a listing in which one of the names is a number. -/
def sampleListing : Surroundings where
  service :=
    let names := "[\x7b\"pathSuffix\":\"a\"\x7d,\x7b\"pathSuffix\":5\x7d]"
    let body := "\x7b\"FileStatuses\":\x7b\"FileStatus\":" ++ names ++ "\x7d\x7d"
    [⟨.response { status := 200, headers := [], body := .whole (Bytes.ofText body) }, none⟩]
  disk := { tree := [] }

/-- **A listing after which a failure gets out.** -/
theorem offers_loses_listing :
    ∃ rows f w', outcome (Session.sample.client.list "/user/alice") sampleListing =
        (.ok rows, w') ∧
      rows.map (fun row => row.1.message) = ["a", "5"] ∧
      outcome (offers Session.sample "get \"") sampleListing = (.error f, w') ∧
      f.message = "'<' not supported between instances of 'int' and 'str'" := by
  have hseen : (match (outcome (Session.sample.client.list "/user/alice") sampleListing).1 with
      | .ok rows => match oddRows .get rows with
        | .error f => some (rows.map fun row => row.1.message, (Listing.entries? rows).isNone,
            f.isExpected, f.message)
        | .ok _ => none
      | .error _ => none) =
      some (["a", "5"], true, false, "'<' not supported between instances of 'int' and 'str'") := by
    decide +kernel
  cases hlist : outcome (Session.sample.client.list "/user/alice") sampleListing with
  | mk result w' =>
    rw [hlist] at hseen
    cases result with
    | error _ => cases hseen
    | ok rows =>
      simp only at hseen
      split at hseen
      next f hfails =>
        simp only [Option.some.injEq, Prod.mk.injEq] at hseen
        obtain ⟨hnames, hentries, hexpected, hmessage⟩ := hseen
        refine ⟨rows, f, w', rfl, hnames, ?_, hmessage⟩
        exact offers_of_oddRows (v := .get) (by decide) (by decide) (by decide) rfl hlist
          (Option.isNone_iff_eq_none.mp hentries) hfails hexpected
      next => cases hseen

end Completion

end NamenodeShell
