import NamenodeShell.Proofs.Settings

/-!
# How the settings come together

A setting has a default, which a variable of the environment replaces, which an override replaces.
The main result (`ofOverrides_eq_ok_iff_merged`) says of any environment and any overrides of
settings when they are accepted and what each setting then is. It needs no order among the
overrides: each setting has at most one, so that what one of them puts in place no other replaces
(`merged_foldlM`), and the settings are determined by what is given and what is kept
(`Merged.unique`).

A value is what its setting takes: a text, a number of seconds, or a count that may be missing.
So the settings are a function on their names (`Settings.value`), and what is said here of one
setting is said of all of them.
-/
set_option autoImplicit false

namespace NamenodeShell

/-- The name of a setting. -/
inductive Setting where
  | scheme | timeout | replication | leaseTimeout | pollInterval | localDir | historyFile | logLevel
deriving DecidableEq

namespace Setting

/-- What a setting is set to. -/
abbrev Value : Setting → Type
  | scheme | localDir | historyFile | logLevel => String
  | timeout | leaseTimeout | pollInterval => Float
  | replication => Option Int

/-- The variable of the environment for a setting. -/
def variableName : Setting → String
  | scheme => "HDFS_SHELL_SCHEME"
  | timeout => "HDFS_SHELL_TIMEOUT"
  | replication => "HDFS_SHELL_REPLICATION"
  | leaseTimeout => "HDFS_SHELL_LEASE_TIMEOUT"
  | pollInterval => "HDFS_SHELL_POLL_INTERVAL"
  | localDir => "HDFS_SHELL_LOCAL_DIR"
  | historyFile => "HDFS_SHELL_HISTORY"
  | logLevel => "HDFS_SHELL_LOG_LEVEL"

/-- What a setting is when nothing is said of it. -/
def default (env : Environment) : (o : Setting) → o.Value
  | scheme => "http"
  | timeout => (30.0 : Float)
  | replication => (none : Option Int)
  | leaseTimeout => (60.0 : Float)
  | pollInterval => (1.0 : Float)
  | localDir => Path.expandHome env.home "~"
  | historyFile => "~/.hdfs_shell_history"
  | logLevel => "WARNING"

/-- Whether a variable that is empty counts as unset. -/
def ignoresEmpty : Setting → Bool
  | timeout | replication | leaseTimeout | pollInterval | localDir => true
  | scheme | historyFile | logLevel => false

/-- The text that the environment has for a setting. -/
def text? (env : Environment) (o : Setting) : Option String :=
  if o.ignoresEmpty then env.nonempty? o.variableName else env.get? o.variableName

/-- A text as the value of a setting, which it may be malformed for. -/
def ofText? : (o : Setting) → String → Option o.Value
  | scheme, text | localDir, text | historyFile, text | logLevel, text => some text
  | timeout, text | leaseTimeout, text | pollInterval, text => Decimal.readFloat? text
  | replication, text => (Decimal.readInt? text).map some

/-- **What the environment makes of a setting**: what its text says, or the default without one. -/
def ofEnvironment? (env : Environment) (o : Setting) : Option o.Value :=
  match o.text? env with
  | some text => o.ofText? text
  | none => some (o.default env)

end Setting

/-- The setting that a value is given for. -/
def Override.setting? : Override → Option Setting
  | scheme _ => some .scheme
  | timeout _ => some .timeout
  | replication _ => some .replication
  | leaseTimeout _ => some .leaseTimeout
  | pollInterval _ => some .pollInterval
  | localDir _ => some .localDir
  | historyFile _ => some .historyFile
  | logLevel _ => some .logLevel
  | other .. => none

/-- The value that is given for a setting, if one is. -/
def Override.value? : Override → (o : Setting) → Option o.Value
  | scheme x, .scheme | localDir x, .localDir | historyFile x, .historyFile
  | logLevel x, .logLevel => x
  | timeout x, .timeout | leaseTimeout x, .leaseTimeout | pollInterval x, .pollInterval => x
  | replication x, .replication => x.map some
  | _, _ => none

namespace Settings

/-- What a setting is. -/
def value (s : Settings) : (o : Setting) → o.Value
  | .scheme => s.scheme
  | .timeout => s.timeout
  | .replication => s.replication
  | .leaseTimeout => s.leaseTimeout
  | .pollInterval => s.pollInterval
  | .localDir => s.localDir
  | .historyFile => s.historyFile
  | .logLevel => s.logLevel

variable {env : Environment} {overrides : List Override} {e s s' : Settings}

/-- Settings are what each of them is. -/
theorem ext_value (h : ∀ o, s.value o = s'.value o) : s = s' := by
  have hscheme := h .scheme
  have htimeout := h .timeout
  have hreplication := h .replication
  have hleaseTimeout := h .leaseTimeout
  have hpollInterval := h .pollInterval
  have hlocalDir := h .localDir
  have hhistoryFile := h .historyFile
  have hlogLevel := h .logLevel
  cases s
  cases s'
  simp only [value] at *
  simp only [*]

/-! ### What the environment says -/

theorem floatVariable_eq_ok_iff {name : String} {default x : Float} :
    floatVariable env name default = .ok x ↔
      (match env.nonempty? name with
        | some text => Decimal.readFloat? text
        | none => some default) = some x := by
  unfold floatVariable
  cases env.nonempty? name with
  | none => simp
  | some text =>
    dsimp only
    cases Decimal.readFloat? text <;> simp

theorem intVariable_eq_ok_iff {name : String} {x : Option Int} :
    intVariable env name = .ok x ↔
      (match env.nonempty? name with
        | some text => (Decimal.readInt? text).map some
        | none => some none) = some x := by
  unfold intVariable
  cases env.nonempty? name with
  | none => simp
  | some text =>
    dsimp only
    cases Decimal.readInt? text <;> simp

/-- A text that is not set is the default. -/
theorem text_or_default (text? : Option String) (default : String) :
    (match text? with | some text => some text | none => some default) =
      some (text?.getD default) := by
  cases text? <;> rfl

/-- **The environment is read** exactly when it makes something of every setting. -/
theorem read_eq_ok_iff :
    read env = .ok e ↔ ∀ o : Setting, o.ofEnvironment? env = some (e.value o) := by
  constructor
  case mp =>
    intro h
    -- The numbers may be refused, and are read in this order; a text is always taken.
    obtain ⟨timeout, htimeout, h⟩ := of_bind h
    obtain ⟨replication, hreplication, h⟩ := of_bind h
    obtain ⟨leaseTimeout, hleaseTimeout, h⟩ := of_bind h
    obtain ⟨pollInterval, hpollInterval, h⟩ := of_bind h
    cases h
    intro o
    cases o with
    | timeout => exact floatVariable_eq_ok_iff.mp htimeout
    | replication => exact intVariable_eq_ok_iff.mp hreplication
    | leaseTimeout => exact floatVariable_eq_ok_iff.mp hleaseTimeout
    | pollInterval => exact floatVariable_eq_ok_iff.mp hpollInterval
    | scheme | localDir | historyFile | logLevel => exact text_or_default _ _
  case mpr =>
    intro h
    have htimeout : floatVariable env "HDFS_SHELL_TIMEOUT" 30.0 = .ok e.timeout :=
      floatVariable_eq_ok_iff.mpr (h .timeout)
    have hreplication : intVariable env "HDFS_SHELL_REPLICATION" = .ok e.replication :=
      intVariable_eq_ok_iff.mpr (h .replication)
    have hleaseTimeout : floatVariable env "HDFS_SHELL_LEASE_TIMEOUT" 60.0 = .ok e.leaseTimeout :=
      floatVariable_eq_ok_iff.mpr (h .leaseTimeout)
    have hpollInterval : floatVariable env "HDFS_SHELL_POLL_INTERVAL" 1.0 = .ok e.pollInterval :=
      floatVariable_eq_ok_iff.mpr (h .pollInterval)
    unfold read
    rw [htimeout, hreplication, hleaseTimeout, hpollInterval]
    refine congrArg Except.ok (ext_value fun o => ?_)
    cases o with
    | timeout | replication | leaseTimeout | pollInterval => rfl
    | scheme => exact Option.some.inj ((text_or_default _ _).symm.trans (h .scheme))
    | localDir => exact Option.some.inj ((text_or_default _ _).symm.trans (h .localDir))
    | historyFile => exact Option.some.inj ((text_or_default _ _).symm.trans (h .historyFile))
    | logLevel => exact Option.some.inj ((text_or_default _ _).symm.trans (h .logLevel))

/-- What the environment is refused for is a value. -/
theorem isOfValue_of_read {f : SettingsError} (h : read env = .error f) : f.isOfValue = true := by
  have hfloat : ∀ {name : String} {default : Float},
      floatVariable env name default = .error f → f.isOfValue = true := by
    intro name default h
    unfold floatVariable at h
    split at h
    next => cases h
    split at h <;> cases h
    rfl
  obtain h | ⟨_, -, h⟩ := of_bind_error h
  · exact hfloat h
  obtain h | ⟨_, -, h⟩ := of_bind_error h
  · unfold intVariable at h
    split at h
    next => cases h
    split at h <;> cases h
    rfl
  obtain h | ⟨_, -, h⟩ := of_bind_error h
  · exact hfloat h
  obtain h | ⟨_, -, h⟩ := of_bind_error h
  · exact hfloat h
  cases h

/-- **The environment is accepted** exactly when it is read and what is read has nothing out of
range. -/
theorem ofEnvironment_eq_ok_iff :
    ofEnvironment env = .ok e ↔
      (∀ o : Setting, o.ofEnvironment? env = some (e.value o)) ∧ e.Passes := by
  rw [← read_eq_ok_iff, ← check_eq_ok_iff]
  constructor
  · intro h
    obtain ⟨_, hread, h⟩ := of_bind h
    obtain ⟨⟨⟩, hcheck, h⟩ := of_bind h
    cases h
    exact ⟨hread, hcheck⟩
  · rintro ⟨hread, hcheck⟩
    unfold ofEnvironment
    rw [hread]
    change e.check >>= _ = _
    rw [hcheck]
    rfl

/-- What an environment is refused for is a value that cannot be read or is out of range. -/
theorem isOfValue_of_ofEnvironment {f : SettingsError} (h : ofEnvironment env = .error f) :
    f.isOfValue = true := by
  obtain h | ⟨_, -, h⟩ := of_bind_error h
  · exact isOfValue_of_read h
  obtain h | ⟨_, -, h⟩ := of_bind_error h
  · exact isOfValue_of_check h
  cases h

/-! ### What the overrides change -/

/-- **What overrides make of settings.** A setting is what is given for it, and is kept when nothing
is. -/
structure Merged (e : Settings) (overrides : List Override) (s : Settings) : Prop where
  given : ∀ x ∈ overrides, ∀ o v, x.value? o = some v → s.value o = v
  kept : ∀ o, (∀ x ∈ overrides, x.value? o = none) → s.value o = e.value o

/-- At most one outcome is merged. -/
theorem Merged.unique (h : Merged e overrides s) (h' : Merged e overrides s') : s = s' := by
  refine ext_value fun o => ?_
  by_cases hgiven : ∃ x ∈ overrides, ∃ v, x.value? o = some v
  case pos =>
    obtain ⟨x, hx, v, hv⟩ := hgiven
    rw [h.given x hx o v hv, h'.given x hx o v hv]
  case neg =>
    have hnone : ∀ x ∈ overrides, x.value? o = none := fun x hx =>
      Option.eq_none_iff_forall_ne_some.mpr fun v hv => hgiven ⟨x, hx, v, hv⟩
    rw [h.kept o hnone, h'.kept o hnone]

/-- The order of the overrides is not looked at. -/
theorem Merged.perm {overrides' : List Override} (h : Merged e overrides s)
    (hperm : overrides.Perm overrides') : Merged e overrides' s where
  given x hx := h.given x (hperm.mem_iff.mpr hx)
  kept o hnone := h.kept o fun x hx => hnone x (hperm.mem_iff.mp hx)

/-- A value is given for the setting of its override. -/
theorem setting?_of_value? {x : Override} {o : Setting} {v : o.Value} (h : x.value? o = some v) :
    x.setting? = some o := by
  cases x <;> cases o <;> first | rfl | cases h

/-- **One override** puts its value in place, and keeps all that it has no value for. -/
theorem apply_known {x : Override} (hknown : x.setting?.isSome) :
    ∃ s', s.apply x = .ok s' ∧ ∀ o, s'.value o = (x.value? o).getD (s.value o) := by
  cases x with
  | other => cases hknown
  | replication n =>
    refine ⟨_, rfl, fun o => ?_⟩
    cases o <;> first | rfl | (cases n <;> rfl)
  | _ =>
    refine ⟨_, rfl, fun o => ?_⟩
    cases o <;> rfl

/-- **All overrides**, one after the other, merge what each of them has: no two are for the same
setting, so none replaces what an earlier one has put in place. -/
theorem merged_foldlM (hknown : ∀ x ∈ overrides, x.setting?.isSome)
    (hdistinct : (overrides.map Override.setting?).Nodup) :
    ∃ s, overrides.foldlM apply e = .ok s ∧ Merged e overrides s := by
  induction overrides generalizing e with
  | nil => exact ⟨e, rfl, ⟨fun _ hx => absurd hx (List.not_mem_nil), fun _ _ => rfl⟩⟩
  | cons x rest ih =>
    obtain ⟨e', happly, hvalue⟩ := apply_known (s := e) (hknown x (List.mem_cons_self ..))
    obtain ⟨hfirst, hrest⟩ := List.nodup_cons.mp hdistinct
    obtain ⟨s, hfold, hmerged⟩ := ih (e := e')
      (fun y hy => hknown y (List.mem_cons_of_mem _ hy)) hrest
    refine ⟨s, by rw [List.foldlM_cons, happly]; exact hfold, ?_, ?_⟩
    · intro y hy o v hv
      obtain rfl | hy := List.mem_cons.mp hy
      case inr => exact hmerged.given y hy o v hv
      -- Nothing in `rest` is for the setting of the first override, so what it put there stays.
      have hnone : ∀ z ∈ rest, z.value? o = none := by
        intro z hz
        refine Option.eq_none_iff_forall_ne_some.mpr fun w hw => hfirst ?_
        rw [setting?_of_value? hv, ← setting?_of_value? hw]
        exact List.mem_map_of_mem hz
      rw [hmerged.kept o hnone, hvalue, hv, Option.getD_some]
    · intro o hnone
      obtain ⟨hx, hnone⟩ := List.forall_mem_cons.mp hnone
      rw [hmerged.kept o hnone, hvalue, hx, Option.getD_none]

/-! ### The settings of an environment and overrides -/

/-- Overrides of settings are put in place and the outcome is checked: nothing among them is for the
record itself or for its check. -/
theorem ofOverrides_eq (hknown : ∀ x ∈ overrides, x.setting?.isSome) :
    ofOverrides env overrides =
      (ofEnvironment env >>= fun e => overrides.foldlM apply e >>= fun s =>
        s.check >>= fun _ => pure s) := by
  have hrecord : overrides.findSome? Override.recordName? = none := by
    refine List.findSome?_eq_none_iff.mpr fun x hx => ?_
    have := hknown x hx
    cases x <;> first | rfl | cases this
  have hcheck : overrides.findSome? Override.checkKind? = none := by
    refine List.findSome?_eq_none_iff.mpr fun x hx => ?_
    have := hknown x hx
    cases x <;> first | rfl | cases this
  unfold ofOverrides
  rw [hrecord, hcheck]

/-- Overrides of settings are accepted when the environment is and what they make of it has nothing
out of range. -/
theorem ofOverrides_eq_ok_iff (hknown : ∀ x ∈ overrides, x.setting?.isSome)
    (hdistinct : (overrides.map Override.setting?).Nodup) :
    ofOverrides env overrides = .ok s ↔
      ∃ e, ofEnvironment env = .ok e ∧ Merged e overrides s ∧ s.Passes := by
  rw [ofOverrides_eq hknown]
  constructor
  case mp =>
    intro h
    obtain ⟨e, henv, h⟩ := of_bind h
    obtain ⟨s', hfold, h⟩ := of_bind h
    obtain ⟨⟨⟩, hcheck, h⟩ := of_bind h
    cases h
    obtain ⟨s', hfold', hmerged⟩ := merged_foldlM (e := e) hknown hdistinct
    cases hfold.symm.trans hfold'
    exact ⟨e, henv, hmerged, check_eq_ok_iff.mp hcheck⟩
  case mpr =>
    rintro ⟨e, henv, hmerged, hpasses⟩
    obtain ⟨s', hfold, hmerged'⟩ := merged_foldlM (e := e) hknown hdistinct
    cases hmerged.unique hmerged'
    rw [henv]
    change overrides.foldlM apply e >>= _ = _
    rw [hfold]
    change s.check >>= _ = _
    rw [check_eq_ok_iff.mpr hpasses]
    rfl

/-- What overrides of settings are refused for is a value, in the environment or in the outcome. -/
theorem isOfValue_of_ofOverrides (hknown : ∀ x ∈ overrides, x.setting?.isSome)
    (hdistinct : (overrides.map Override.setting?).Nodup) {f : SettingsError}
    (h : ofOverrides env overrides = .error f) : f.isOfValue = true := by
  rw [ofOverrides_eq hknown] at h
  obtain h | ⟨e, -, h⟩ := of_bind_error h
  · exact isOfValue_of_ofEnvironment h
  obtain h | ⟨s, -, h⟩ := of_bind_error h
  · obtain ⟨s, hfold, -⟩ := merged_foldlM (e := e) hknown hdistinct
    cases hfold.symm.trans h
  obtain h | ⟨_, -, h⟩ := of_bind_error h
  · exact isOfValue_of_check h
  cases h

/-- The overrides may come in any order. -/
theorem ofOverrides_perm {overrides' : List Override}
    (hknown : ∀ x ∈ overrides, x.setting?.isSome)
    (hdistinct : (overrides.map Override.setting?).Nodup) (hperm : overrides.Perm overrides') :
    ofOverrides env overrides = ofOverrides env overrides' := by
  have hknown' : ∀ x ∈ overrides', x.setting?.isSome :=
    fun x hx => hknown x (hperm.mem_iff.mpr hx)
  have hdistinct' : (overrides'.map Override.setting?).Nodup :=
    (hperm.map _).nodup_iff.mp hdistinct
  rw [ofOverrides_eq hknown, ofOverrides_eq hknown']
  refine congrArg _ (funext fun e => ?_)
  obtain ⟨s, hfold, hmerged⟩ := merged_foldlM (e := e) hknown hdistinct
  obtain ⟨s', hfold', hmerged'⟩ := merged_foldlM (e := e) hknown' hdistinct'
  rw [hfold, hfold', (hmerged.perm hperm).unique hmerged']

/-- **The settings come together exactly.** Overrides of settings, at most one for each, are
accepted just when the environment alone is and what they make of it has nothing out of range
either; the settings are then what they make of it. All else is refused for a value. The order of
the overrides does not matter, and an environment that is refused alone is refused for the same
reason whatever the overrides are. -/
theorem ofOverrides_eq_ok_iff_merged (env : Environment) (overrides : List Override)
    (hknown : ∀ x ∈ overrides, x.setting?.isSome)
    (hdistinct : (overrides.map Override.setting?).Nodup) :
    (∀ s, ofOverrides env overrides = .ok s ↔
      ∃ e : Settings, (∀ o : Setting, o.ofEnvironment? env = some (e.value o)) ∧ e.Passes ∧
        Merged e overrides s ∧ s.Passes) ∧
    (∀ f, ofOverrides env overrides = .error f → f.isOfValue = true) ∧
    (∀ overrides', overrides.Perm overrides' →
      ofOverrides env overrides' = ofOverrides env overrides) ∧
    ∀ f, ofEnvironment env = .error f → ofOverrides env overrides = .error f := by
  refine ⟨fun s => ?_, fun f => isOfValue_of_ofOverrides hknown hdistinct,
    fun overrides' hperm => (ofOverrides_perm hknown hdistinct hperm).symm, fun f henv => ?_⟩
  · rw [ofOverrides_eq_ok_iff hknown hdistinct]
    simp only [ofEnvironment_eq_ok_iff, and_assoc]
  · rw [ofOverrides_eq hknown, henv]
    rfl

/-- An environment that sets a timeout, and the local directory to nothing. -/
def sampleEnvironment : Environment :=
  [("HOME", "/home/alice"), ("HDFS_SHELL_TIMEOUT", "5"), ("HDFS_SHELL_LOCAL_DIR", "")]

/-- Overrides that leave the timeout as it is. -/
def sampleOverrides : List Override :=
  [.scheme (some "https"), .timeout none, .replication (some 2)]

/-- What they come to. -/
def sampleSettings : Settings where
  scheme := "https"
  timeout := 5.0
  replication := some 2
  localDir := "/home/alice"

/-- Each of the three layers is seen in the settings, and in any order of the overrides. -/
theorem sample_merged :
    (∃ e : Settings, (∀ o : Setting, o.ofEnvironment? sampleEnvironment = some (e.value o)) ∧
      e.Passes ∧ Merged e sampleOverrides sampleSettings ∧ sampleSettings.Passes) ∧
    ofOverrides sampleEnvironment sampleOverrides.reverse = .ok sampleSettings := by
  have hknown : ∀ x ∈ sampleOverrides, x.setting?.isSome := by decide
  have hdistinct : (sampleOverrides.map Override.setting?).Nodup := by decide
  have haccepted : ofOverrides sampleEnvironment sampleOverrides = .ok sampleSettings := by rfl
  obtain ⟨hiff, -, hperm, -⟩ :=
    ofOverrides_eq_ok_iff_merged sampleEnvironment sampleOverrides hknown hdistinct
  exact ⟨(hiff _).mp haccepted, (hperm _ (List.reverse_perm _).symm).trans haccepted⟩

end Settings

end NamenodeShell
