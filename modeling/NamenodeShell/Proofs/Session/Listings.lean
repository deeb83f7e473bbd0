import NamenodeShell.Proofs.Disk.Listing
import NamenodeShell.Proofs.Listing
import NamenodeShell.Proofs.Replies
import NamenodeShell.Proofs.Session.Success

/-!
# Listings that are shown

Both commands that list a directory show the lines of its entries and nothing else. A listing is in
order whatever order its entries came in, so nobody can tell from what is shown in which order the
service or the disk reported them (`lists_in_order`). For the service that is said of the array in
its answer: `Surroundings.Relisted` relates two services that differ in the order of it.

The names in a listing are texts, and `entryIn?_isSome_iff` says which statuses have such names. The
service may put something else in place of one, and then the order may be told after all: by the
failure that there is when two names cannot be compared (`ls_tells_order`).
-/
set_option autoImplicit false

namespace NamenodeShell

open Shell

/-! ## What a listing reports -/

namespace Client

/-- The entry that a file status tells of, when its name is a text. -/
def entryIn? (status : Json) : Option Entry :=
  match entryOf status with
  | .ok (.text name, kind) => some { name, kind }
  | _ => none

/-- An entry as a row. -/
def rowOf (e : Entry) : Listing.Row :=
  (.text e.name, e.kind)

/-- A status that tells of an entry is read as the row of that entry. -/
theorem entryIn?_eq_some {status : Json} {e : Entry} (h : entryIn? status = some e) :
    entryOf status = .ok (rowOf e) := by
  unfold entryIn? at h
  split at h
  next name kind heq =>
    cases h
    exact heq
  next => cases h

/-- A type that is a list or an object cannot be looked up; any other has a kind, and so has none.
-/
theorem kindOf_isOk {type : Option Json} :
    (∃ kind, kindOf type = .ok kind) ↔ ∀ v, type = some v → ∃ k, v.key = .ok k := by
  cases type with
  | none =>
    refine iff_of_true ⟨.other, rfl⟩ fun v hv => ?_
    cases hv
  | some v =>
    rw [kindOf]
    cases hkey : v.key with
    | error f =>
      refine iff_of_false ?_ fun h => ?_
      · rintro ⟨kind, hkind⟩
        cases hkind
      · obtain ⟨k, hk⟩ := h v rfl
        cases hkey.symm.trans hk
    | ok k =>
      refine iff_of_true ?_ fun v' hv' => ⟨k, Option.some.inj hv' ▸ hkey⟩
      simp only [bind, Except.bind]
      split <;> exact ⟨_, rfl⟩

/-- **A status tells of an entry** just when it is an object in which the name, if there is one, is
a text, and the type, if there is one, can be looked up. -/
theorem entryIn?_isSome_iff {status : Json} : (entryIn? status).isSome ↔ ∃ members,
    status = .object members ∧
    (∀ v, members.lookup "pathSuffix" = some v → ∃ name, v = .text name) ∧
    ∀ v, members.lookup "type" = some v → ∃ k, v.key = .ok k := by
  cases status with
  | object members =>
    have hentry : entryOf (.object members) =
        (kindOf (members.lookup "type")).map
          ((members.lookup "pathSuffix").getD (.text ""), ·) := by
      unfold entryOf
      cases hkind : kindOf (members.lookup "type") <;>
        simp only [Json.get, bind, Except.bind, hkind] <;> rfl
    simp only [Json.object.injEq, exists_eq_left', ← kindOf_isOk]
    unfold entryIn?
    rw [hentry]
    cases kindOf (members.lookup "type") with
    | error f =>
      refine iff_of_false Bool.false_ne_true ?_
      rintro ⟨-, kind, hkind⟩
      cases hkind
    | ok kind =>
      simp only [Except.map, Except.ok.injEq, exists_eq', and_true]
      cases members.lookup "pathSuffix" with
      | none =>
        refine iff_of_true rfl fun v hv => ?_
        cases hv
      | some v =>
        cases v with
        | text name => exact iff_of_true rfl fun v hv => ⟨name, (Option.some.inj hv).symm⟩
        | _ =>
          refine iff_of_false Bool.false_ne_true fun h => ?_
          obtain ⟨name, hname⟩ := h _ rfl
          cases hname
  | _ =>
    refine iff_of_false Bool.false_ne_true ?_
    rintro ⟨members, hmembers, -⟩
    cases hmembers

/-- File statuses that tell of entries are read as these. -/
theorem mapM_entryOf {statuses : List Json} (h : ∀ v ∈ statuses, (entryIn? v).isSome) :
    statuses.mapM entryOf = .ok ((statuses.filterMap entryIn?).map rowOf) := by
  rw [mapM_eq_ok_iff]
  induction statuses with
  | nil => exact .nil
  | cons v statuses ih =>
    obtain ⟨hv, hrest⟩ := List.forall_mem_cons.mp h
    obtain ⟨e, he⟩ := Option.isSome_iff_exists.mp hv
    rw [List.filterMap_cons_some he]
    exact .cons (entryIn?_eq_some he) (ih hrest)

/-- The rows in a response. -/
def rowsIn (r : Response) : Except Failure (List Listing.Row) := do
  entriesOf (← bodyIn r)

/-- LISTSTATUS is one exchange, and its answer is read at once. -/
theorem outcome_list (c : Client) (path : String) (w : Surroundings) :
    outcome (c.list path) w = (c.heard rowsIn w.reply, w.exchanged (c.request .list path)) := by
  refine c.outcome_perform_look (fun r w => ?_) w
  rw [outcome_bind, outcome_body, rowsIn]
  cases bodyIn r <;> rfl

end Client

/-- **A reply lists file statuses**: it is an accepted answer with the array of them. -/
def Reply.Lists (reply : Reply) (statuses : List Json) : Prop :=
  ∃ r members inner, reply = .response r ∧ r.isRefusal = false ∧ r.json = .ok (.object members) ∧
    members.lookup "FileStatuses" = some (.object inner) ∧
    inner.lookup "FileStatus" = some (.list statuses)

/-- What is read of a reply that lists file statuses are the entries they tell of. -/
theorem Reply.Lists.gives {reply : Reply} {statuses : List Json} (h : reply.Lists statuses)
    (hentries : ∀ v ∈ statuses, (Client.entryIn? v).isSome) :
    reply.Gives Client.rowsIn ((statuses.filterMap Client.entryIn?).map Client.rowOf) := by
  obtain ⟨r, members, inner, hreply, hr, hjson, houter, hinner⟩ := h
  refine ⟨r, hreply, hr, ?_⟩
  have hbody : Client.bodyIn r = .ok (.object members) := by
    rw [Client.bodyIn, hjson]
    rfl
  have hstatuses : (Json.object members).get "FileStatuses" = .ok (some (.object inner)) :=
    congrArg Except.ok houter
  have hstatus : (Json.object inner).get "FileStatus" = .ok (some (.list statuses)) :=
    congrArg Except.ok hinner
  rw [Client.rowsIn, hbody]
  change Client.entriesOf (.object members) = _
  unfold Client.entriesOf
  rw [hstatuses]
  simp only [bind, Except.bind, Option.getD_some, hstatus]
  cases statuses with
  | nil => rfl
  | cons v rest => exact Client.mapM_entryOf hentries

/-- A reply that lists file statuses is a response. -/
theorem Reply.Lists.isAnswered {w : Surroundings} {statuses : List Json}
    (h : w.reply.Lists statuses) : w.isAnswered = true := by
  obtain ⟨r, _, _, hreply, -⟩ := h
  rw [Surroundings.isAnswered, hreply]

namespace Listing

/-- Rows whose names are texts are shown as the entries that they are. -/
theorem reportedLines_rowOf (entries : List Entry) :
    reportedLines (entries.map Client.rowOf) = (lines entries, none) := by
  have hentries : entries? (entries.map Client.rowOf) = some entries := by
    unfold entries?
    induction entries with
    | nil => rfl
    | cons e entries ih =>
      rw [List.map_cons, List.mapM_cons, ih]
      rfl
  unfold reportedLines
  rw [hentries]

end Listing

namespace Surroundings

/-- The surroundings with more shown. -/
def showing (w : Surroundings) (texts : List Markup.Styled) : Surroundings :=
  { w with log := w.log ++ texts.map .shown }

/-- The surroundings once a directory has been asked for and listed. -/
def listed (w : Surroundings) (c : Client) (path : String) : Surroundings :=
  (w.exchanged (c.request .status path)).exchanged (c.request .list path)

/-- **The service reports a directory in another order**, and is the same otherwise. What is asked
for first is whether there is a directory. -/
def Relisted (w w' : Surroundings) : Prop :=
  ∃ first answer reply rest statuses statuses',
    w.service = first :: answer :: rest ∧
    w' = { w with service := first :: { answer with reply } :: rest } ∧
    answer.reply.Lists statuses ∧ reply.Lists statuses' ∧ statuses.Perm statuses' ∧
    ∀ v ∈ statuses, (Client.entryIn? v).isSome

namespace Relisted

variable {w w' : Surroundings}

/-- Both begin with the same answer, -/
theorem reply (h : w.Relisted w') : w'.reply = w.reply := by
  obtain ⟨first, answer, reply, rest, _, _, hservice, rfl, -⟩ := h
  unfold Surroundings.reply
  rw [hservice]
  rfl

/-- with the same log, -/
theorem log (h : w.Relisted w') : w'.log = w.log := by
  obtain ⟨_, _, _, _, _, _, -, rfl, -⟩ := h
  rfl

/-- and go on with the same statuses in some order. -/
theorem lists (h : w.Relisted w') : ∃ statuses statuses',
    (replyOf w.service.tail).Lists statuses ∧ (replyOf w'.service.tail).Lists statuses' ∧
    statuses.Perm statuses' ∧ ∀ v ∈ statuses, (Client.entryIn? v).isSome := by
  obtain ⟨first, answer, reply, rest, statuses, statuses', hservice, rfl, hlists⟩ := h
  rw [hservice]
  exact ⟨statuses, statuses', hlists⟩

/-- Both tell the same of the first exchange. -/
theorem log_exchanged (h : w.Relisted w') (c : Client) (op : Operation) (path : String) :
    (w'.exchanged (c.request op path)).log = (w.exchanged (c.request op path)).log := by
  rw [Surroundings.log_exchanged, Surroundings.log_exchanged, h.log, isAnswered, isAnswered,
    h.reply]

/-- And of the second. -/
theorem log_listed (h : w.Relisted w') (c : Client) (path : String) :
    (w'.listed c path).log = (w.listed c path).log := by
  obtain ⟨_, _, hlists, hlists', -⟩ := h.lists
  have hanswered : (w.exchanged (c.request .status path)).isAnswered = true :=
    Reply.Lists.isAnswered hlists
  have hanswered' : (w'.exchanged (c.request .status path)).isAnswered = true :=
    Reply.Lists.isAnswered hlists'
  unfold listed
  rw [Surroundings.log_exchanged (w.exchanged _), Surroundings.log_exchanged (w'.exchanged _),
    h.log_exchanged, hanswered, hanswered']

end Relisted

end Surroundings

namespace Session

variable {s : Session} {w w' : Surroundings} {path : String} {statuses : List Json}
  {texts : List Markup.Styled}

/-! ## What is shown -/

/-- **Lines that can be shown are shown**, all of them and nothing else. -/
theorem outcome_sayAll {lines : List String} (h : Markup.Renders lines texts) (w : Surroundings) :
    outcome (sayAll lines) w = (.ok (), w.showing texts) := by
  induction h generalizing w with
  | nil => rw [Surroundings.showing, List.map_nil, List.append_nil]; rfl
  | @cons line text lines texts hline hlines ih =>
    rw [sayAll, outcome_bind_of_ok (outcome_say_of_render hline w), ih]
    simp [Surroundings.showing]

/-! ## The remote directory -/

/-- **A remote directory is listed**: it is asked for, and the entries that are reported of it are
shown. -/
theorem outcome_ls (hpath : s.remote = .path path) (hdir : w.reply.IsDirectory)
    (hlists : (replyOf w.service.tail).Lists statuses)
    (hentries : ∀ v ∈ statuses, (Client.entryIn? v).isSome)
    (htexts : Markup.Renders (Listing.lines (statuses.filterMap Client.entryIn?)) texts) :
    outcome s.ls w = (.ok (), (w.listed s.client path).showing texts) := by
  have hasked := s.client.outcome_isDirectory path w
  rw [Client.directory_eq_true.mpr hdir] at hasked
  have hgives : (w.exchanged (s.client.request .status path)).reply.Gives Client.rowsIn
      ((statuses.filterMap Client.entryIn?).map Client.rowOf) := hlists.gives hentries
  have hlist := s.client.outcome_list path (w.exchanged (s.client.request .status path))
  rw [Client.heard_eq_ok.mpr hgives] at hlist
  unfold ls
  rw [hpath, Remote.here, lift_ok_bind, outcome_bind_of_ok hasked, if_pos rfl,
    outcome_bind_of_ok hlist, Listing.reportedLines_rowOf]
  exact outcome_bind_of_ok (outcome_sayAll htexts _)

/-- Where there is no directory nothing is listed: it is said so, or the question fails. -/
theorem outcome_ls_of_not_directory (hpath : s.remote = .path path) (hdir : ¬ w.reply.IsDirectory) :
    outcome s.ls w = outcome (match s.client.directory w.reply with
      | .error f => throw f
      | .ok _ => tell s!"Path {path} is not a directory")
        (w.exchanged (s.client.request .status path)) := by
  have hasked := s.client.outcome_isDirectory path w
  unfold ls
  rw [hpath, Remote.here, lift_ok_bind]
  -- The question fails, which ends the command, or it is answered with no.
  cases hanswer : s.client.directory w.reply with
  | error f =>
    rw [hanswer] at hasked
    exact outcome_bind_of_error hasked
  | ok b =>
    cases b with
    | true => exact absurd (Client.directory_eq_true.mp hanswer) hdir
    | false =>
      rw [hanswer] at hasked
      rw [outcome_bind_of_ok hasked, if_neg Bool.false_ne_true,
        outcome_bind_of_ok (outcome_tell _ _), outcome_tell]
      rfl

/-- **The order in which a remote directory is reported is not seen**: neither in what is shown nor
in how it ends. -/
theorem ls_relisted (h : w.Relisted w') :
    (outcome s.ls w').1 = (outcome s.ls w).1 ∧
      (outcome s.ls w').2.log = (outcome s.ls w).2.log := by
  cases hremote : s.remote with
  | value v =>
    unfold ls
    rw [hremote]
    exact ⟨rfl, h.log⟩
  | path path =>
    -- Where there is no directory the listings are not even asked for.
    by_cases hdir : w.reply.IsDirectory
    · obtain ⟨statuses, statuses', hlists, hlists', hperm, hentries⟩ := h.lists
      obtain ⟨texts, -, htexts⟩ := Listing.lines_shown (statuses.filterMap Client.entryIn?)
      -- One list of texts for both orders: the lines are the same.
      have htexts' := htexts
      rw [Listing.lines_eq_of_perm (hperm.filterMap _)] at htexts'
      have hentries' : ∀ v ∈ statuses', (Client.entryIn? v).isSome :=
        fun v hv => hentries v (hperm.mem_iff.mpr hv)
      rw [outcome_ls hremote hdir hlists hentries htexts,
        outcome_ls hremote (h.reply ▸ hdir) hlists' hentries' htexts']
      exact ⟨rfl, congrArg (· ++ _) (h.log_listed s.client path)⟩
    · rw [outcome_ls_of_not_directory hremote hdir,
        outcome_ls_of_not_directory hremote (h.reply ▸ hdir), h.reply]
      cases s.client.directory w.reply with
      | error f => exact ⟨rfl, h.log_exchanged ..⟩
      | ok b =>
        simp only [outcome_tell, h.log_exchanged, and_self]

/-! ## The local directory -/

/-- The entries of a local directory are those that the disk lists. -/
theorem outcome_localEntries (path : String) (w : Surroundings) :
    outcome (localEntries path) w =
      ((w.disk.list path).mapError fun (cause, about) => .disk cause about, w) := by
  unfold localEntries
  rw [outcome_bind_of_ok (outcome_disk w)]
  cases w.disk.list path <;> rfl

/-- A local directory that can be listed is shown, -/
theorem outcome_lls_of_ok {entries : List Entry} (h : w.disk.list s.localDir = .ok entries)
    (htexts : Markup.Renders (Listing.lines entries) texts) :
    outcome s.lls w = (.ok (), w.showing texts) := by
  have hlocal := outcome_localEntries s.localDir w
  rw [h] at hlocal
  exact (outcome_bind_of_ok hlocal).trans (outcome_sayAll htexts w)

/-- and one that cannot be makes the command fail, with nothing shown. -/
theorem outcome_lls_of_error {cause : Cause} {about : String}
    (h : w.disk.list s.localDir = .error (cause, about)) :
    outcome s.lls w = (.error (.disk cause about), w) := by
  have hlocal := outcome_localEntries s.localDir w
  rw [h] at hlocal
  exact outcome_bind_of_error hlocal

/-- **The order in which a local directory is reported is not seen** in what is shown of it. If it
cannot be listed, it cannot be in any order, and nothing is shown. -/
theorem lls_reordered {d' : Disk} (h : w.disk.Reordered d') :
    (∃ entries texts, w.disk.list s.localDir = .ok entries ∧ Listing.Shows entries texts ∧
      outcome s.lls w = (.ok (), w.showing texts) ∧
      outcome s.lls { w with disk := d' } = (.ok (), { w with disk := d' }.showing texts)) ∨
    ∃ f f', outcome s.lls w = (.error f, w) ∧
      outcome s.lls { w with disk := d' } = (.error f', { w with disk := d' }) := by
  cases hlist : w.disk.list s.localDir with
  | ok entries =>
    obtain ⟨entries', hlist', hperm⟩ := h.list hlist
    obtain ⟨texts, hshows, htexts⟩ := Listing.lines_shown entries
    refine .inl ⟨entries, texts, rfl, hshows, outcome_lls_of_ok hlist htexts, ?_⟩
    rw [Listing.lines_eq_of_perm hperm] at htexts
    exact outcome_lls_of_ok hlist' htexts
  -- Another order lists the same or nothing, so neither can be listed; which link stopped it may
  -- differ.
  | error refusal =>
    cases hlist' : d'.list s.localDir with
    | ok entries' =>
      obtain ⟨entries, hok, -⟩ := h.symm.list hlist'
      cases hlist.symm.trans hok
    | error refusal' =>
      exact .inr ⟨_, _, outcome_lls_of_error hlist, outcome_lls_of_error hlist'⟩

/-! ## Listings in one order -/

/-- **Listings do not depend on the order in which entries are reported.** -/
structure ListsInOrder (s : Session) (w : Surroundings) : Prop where
  /-- A listing has the entries that it is of, by kind and within a kind by name. -/
  grouped : ∀ entries : List Entry,
    (Entry.grouped entries).Perm entries ∧ (Entry.grouped entries).Pairwise Entry.Precedes
  /-- The same entries are shown by the same texts, in whatever order they come. -/
  shown : ∀ entries entries' : List Entry, entries.Perm entries' → ∃ texts,
    Listing.Shows entries texts ∧
    outcome (sayAll (Listing.lines entries)) w = (.ok (), w.showing texts) ∧
    outcome (sayAll (Listing.lines entries')) w = (.ok (), w.showing texts)
  /-- What is listed of a remote directory are the entries that the service reports. -/
  remote : ∀ path statuses, s.remote = .path path → w.reply.IsDirectory →
    (replyOf w.service.tail).Lists statuses → (∀ v ∈ statuses, (Client.entryIn? v).isSome) →
    ∃ texts, Listing.Shows (statuses.filterMap Client.entryIn?) texts ∧
      outcome s.ls w = (.ok (), (w.listed s.client path).showing texts)
  /-- In another order they are listed just so. -/
  relisted : ∀ w', w.Relisted w' → (outcome s.ls w').1 = (outcome s.ls w).1 ∧
    (outcome s.ls w').2.log = (outcome s.ls w).2.log
  /-- What is listed of a local directory are the entries that the disk has, in whatever order it
  has them. If it cannot be listed in one order, it cannot in another, and nothing is shown. -/
  reordered : ∀ d', w.disk.Reordered d' →
    (∃ entries texts, w.disk.list s.localDir = .ok entries ∧ Listing.Shows entries texts ∧
      outcome s.lls w = (.ok (), w.showing texts) ∧
      outcome s.lls { w with disk := d' } = (.ok (), { w with disk := d' }.showing texts)) ∨
    ∃ f f', outcome s.lls w = (.error f, w) ∧
      outcome s.lls { w with disk := d' } = (.error f', { w with disk := d' })

/-- **Listings do not depend on the order in which entries are reported**, neither by the service
nor by the disk. -/
theorem lists_in_order (s : Session) (w : Surroundings) : s.ListsInOrder w where
  grouped entries := ⟨Entry.grouped_perm entries, Entry.grouped_sorted entries⟩
  shown entries entries' hperm := by
    obtain ⟨texts, hshows, htexts⟩ := Listing.lines_shown entries
    refine ⟨texts, hshows, outcome_sayAll htexts w, ?_⟩
    rw [← Listing.lines_eq_of_perm hperm]
    exact outcome_sayAll htexts w
  remote path statuses hpath hdir hlists hentries := by
    obtain ⟨texts, hshows, htexts⟩ := Listing.lines_shown (statuses.filterMap Client.entryIn?)
    exact ⟨texts, hshows, outcome_ls hpath hdir hlists hentries htexts⟩
  relisted _ h := ls_relisted h
  reordered _ h := lls_reordered h

/-- A service with a directory and a listing of it, made of these statuses. -/
def reporting (statuses : List String) : Surroundings where
  service :=
    let answer (body : String) : Answer :=
      ⟨.response { status := 200, headers := [], body := .whole (Bytes.ofText body) }, none⟩
    [answer "\x7b\"FileStatus\":\x7b\"type\":\"DIRECTORY\"\x7d\x7d",
      answer ("\x7b\"FileStatuses\":\x7b\"FileStatus\":[" ++ ",".intercalate statuses ++
        "]\x7d\x7d")]
  disk := { tree := [] }

/-- What a listing fails of, and how much is shown of it before. -/
def failureOfLs (s : Session) (w : Surroundings) : Option (String × Nat) :=
  match outcome s.ls w with
  | (.error f, w') => some (f.message, (w'.log.filterMap Event.shown?).length)
  | (.ok _, _) => none

/-- The status of an entry with a text for its name, -/
def named : String := "\x7b\"pathSuffix\":\"a\",\"type\":\"FILE\"\x7d"

/-- and of one with a number in place of it. -/
def numbered : String := "\x7b\"pathSuffix\":5,\"type\":\"FILE\"\x7d"

/-- **A listing that tells in which order the entries were reported.** Names that are no texts may
have no order, and what cannot be compared is told as it comes. -/
theorem ls_tells_order :
    [named, numbered].Perm [numbered, named] ∧
    sample.failureOfLs (reporting [named, numbered]) =
      some ("'<' not supported between instances of 'int' and 'str'", 0) ∧
    sample.failureOfLs (reporting [numbered, named]) =
      some ("'<' not supported between instances of 'str' and 'int'", 0) := by
  exact ⟨.swap _ _ _, by decide +kernel, by decide +kernel⟩

end Session

end NamenodeShell
