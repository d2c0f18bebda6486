import SiteConf.Proofs.Places
import SiteConf.Proofs.Usable

/-!
# Changing settings again and again

A change reads the settings from their file, checks the new value and writes all of them. Whether a value is refused
depends on the key and the value only (`Settings.refused_of_set`), because settings that were loaded always pass their
checks. What was written to its end is loaded again, given that the reader gives back what the writer wrote
(`Cli.changeSetting_step`). Two faults are left: the reader cannot make a value in the file, and then no change does
anything; or the writer breaks off, and what it wrote by then stays in the file. Main statement:
`Cli.changeSetting_run`.
-/

namespace SiteConf

/-! ### Changing a value -/

namespace Settings

/-- Why a value is refused for a key. -/
inductive Refused (key : String) (value : Data) : SettingsFault → Prop where
  | unknownKey (hkey : key ∉ keys) : Refused key value (.unknownKey key)
  | outputFormat (hkey : key = "output_format") (h : ∀ f : OutputFormat, value ≠ .text (spell f)) :
    Refused key value .outputFormat
  | passesKind (hkey : key = "max_fix_passes") (h : ∀ n, value ≠ .int n) : Refused key value .passesKind
  | passesRange {n : Int} (hkey : key = "max_fix_passes") (hvalue : value = .int n) (h : n < 1) :
    Refused key value .passesRange

variable {s s' : Settings} {key : String} {value : Data} {e : SettingsFault}

theorem refused_of_readFormat (h : readFormat value = .error e) : Refused "output_format" value e := by
  by_cases hvalue : ∀ f : OutputFormat, value ≠ .text (spell f)
  · rw [readFormat_of_ne hvalue] at h
    cases h
    exact .outputFormat rfl hvalue
  · obtain ⟨f, hf⟩ := Classical.not_forall_not.1 hvalue
    rw [readFormat_eq_ok_iff.2 hf] at h
    cases h

theorem refused_of_readPasses (h : readPasses value = .error e) : Refused "max_fix_passes" value e := by
  unfold readPasses at h
  split at h
  · split_ifs at h with hn
    cases h
    exact .passesRange rfl rfl hn
  · next hkind =>
    cases h
    exact .passesKind rfl hkind

theorem lookup_toEntries_eq_none_iff : s.toEntries.lookup key = none ↔ key ∉ keys := by
  rw [List.lookup_eq_none_iff]
  simp [toEntries, keys]

theorem named_insert (key name : String) (value : Data) (es : Entries) :
    named (Entries.insert key value es) name = if name = key then value else named es name := by
  unfold named
  rw [Entries.lookup_insert]
  split_ifs <;> rfl

theorem set_of_mem (h : key ∈ keys) : s.set key value = ofEntries (Entries.insert key value s.toEntries) := by
  have hsome : (s.toEntries.lookup key).isNone = false := by
    rw [Option.isNone_eq_false_iff, Option.isSome_iff_ne_none]
    exact fun hnone => lookup_toEntries_eq_none_iff.1 hnone h
  rw [set, hsome]
  rfl

theorem set_of_not_mem (h : key ∉ keys) : s.set key value = .error (.unknownKey key) := by
  rw [set, lookup_toEntries_eq_none_iff.2 h]
  rfl

/-- Only the new value can be refused, because the others were accepted before. -/
theorem refused_of_set (hs : 1 ≤ s.maxFixPasses) (h : s.set key value = .error e) : Refused key value e := by
  by_cases hkey : key ∈ keys
  · rw [set_of_mem hkey] at h
    have hformat : readFormat (named s.toEntries "output_format") = .ok s.outputFormat := readFormat_eq_ok_iff.2 rfl
    have hpasses : readPasses (named s.toEntries "max_fix_passes") = .ok s.maxFixPasses :=
      readPasses_eq_ok_iff.2 ⟨rfl, hs⟩
    obtain h | h := ofEntries_eq_error h
    · rw [named_insert] at h
      split_ifs at h with hname
      · exact hname ▸ refused_of_readFormat h
      · rw [hformat] at h
        cases h
    · rw [named_insert] at h
      split_ifs at h with hname
      · exact hname ▸ refused_of_readPasses h
      · rw [hpasses] at h
        cases h
  · rw [set_of_not_mem hkey] at h
    cases h
    exact .unknownKey hkey

/-- A value that is accepted changes the settings under its key only. -/
theorem toEntries_of_set (h : s.set key value = .ok s') :
    s'.toEntries = Entries.insert key value s.toEntries ∧ 1 ≤ s'.maxFixPasses ∧ ∀ e, ¬Refused key value e := by
  by_cases hkey : key ∈ keys
  · rw [set_of_mem hkey] at h
    obtain ⟨hentries, hpos⟩ := ofEntries_eq_ok_iff.1 h
    obtain ⟨hformat, hpasses, -, -⟩ := toEntries_eq_iff.1 hentries
    rw [named_insert] at hformat hpasses
    refine ⟨hentries.trans ?_, hpos, fun e he => ?_⟩
    · fin_cases hkey <;> rfl
    · cases he with
      | unknownKey hno => exact hno hkey
      | outputFormat hkey hno => exact hno _ ((if_pos hkey.symm).symm.trans hformat)
      | passesKind hkey hno => exact hno _ ((if_pos hkey.symm).symm.trans hpasses)
      | passesRange hkey hvalue hno =>
        have hint := hvalue.symm.trans ((if_pos hkey.symm).symm.trans hpasses)
        cases hint
        exact absurd hno (not_lt.2 hpos)
  · rw [set_of_not_mem hkey] at h
    cases h

end Settings

namespace Cli

/-! ### Runs on a store -/

/-- What a run gives, and the store that it leaves. -/
def onStore {α : Type} (act : Run (StateM Store) α) (st : Store) : Except Abort α × Store := act.run.run st

section
variable {α β : Type}

theorem onStore_bind (act : Run (StateM Store) α) (next : α → Run (StateM Store) β) (st : Store) :
    onStore (act >>= next) st = match onStore act st with
      | (.ok a, st') => onStore (next a) st'
      | (.error e, st') => (.error e, st') := by
  unfold onStore
  rw [ExceptT.run_bind, StateT.run_bind]
  obtain ⟨r, st'⟩ := act.run.run st
  cases r <;> rfl

theorem onStore_lift_bind (act : StateM Store α) (next : α → Run (StateM Store) β) (st : Store) :
    onStore ((act : Run (StateM Store) α) >>= next) st = onStore (next (act.run st).1) (act.run st).2 := by
  rw [onStore_bind]
  rfl

theorem run_look (path : String) (st : Store) : (Files.look path : StateM Store _).run st = (st.look path, st) := rfl

end

variable {y : YamlCodec} {directory key path text : String} {value : Data} {st st' : Store} {s : Settings}

/-! ### Reading and writing the settings -/

theorem onStore_readSettingsFile_text {r : Except String SettingsFile} (hlook : st.look path = .ok (.text text))
    (hread : SettingsFile.ofText y (.ofList (Text.unifyLineEnds text.toList)) = r) :
    onStore (readSettingsFile y path) st = (r.mapError .value, st) := by
  unfold readSettingsFile
  rw [onStore_lift_bind, run_look]
  simp only [hlook, hread]
  cases r <;> rfl

theorem onStore_readSettingsFile_directory (hlook : st.look path = .ok .directory) :
    ∃ reason, onStore (readSettingsFile y path) st = (.ok (.unreadable reason), st) := by
  unfold readSettingsFile
  rw [onStore_lift_bind, run_look]
  simp only [hlook]
  exact ⟨_, rfl⟩

theorem onStore_readSettingsFile_missing {p : String} (hlook : st.look path = .error ⟨.noEntry, p⟩) :
    onStore (readSettingsFile y path) st = (.ok .missing, st) := by
  unfold readSettingsFile
  rw [onStore_lift_bind, run_look]
  simp only [hlook]
  rfl

theorem onStore_loadSettings {r : Except Abort SettingsFile}
    (h : onStore (readSettingsFile y (settingsFile directory)) st = (r, st)) :
    onStore (loadSettings y directory) st = (r.map Settings.load, st) := by
  unfold loadSettings
  rw [onStore_bind, h]
  cases r <;> rfl

theorem run_change {f : Store → Except FileFault Store} (h : f st = .ok st') :
    (Store.change f).run st = (.ok (), st') := by
  unfold Store.change
  simp only [StateT.run, bind, StateT.bind, get, getThe, MonadStateOf.get, StateT.get, pure, h]
  rfl

/-- The directory is there or can be made, and then every text can be written to the file with the settings. -/
def Writable (directory : String) (st : Store) : Prop :=
  ∃ t, st.createDirectories directory = .ok t ∧ ∀ text, ∃ u, t.write (settingsFile directory) text = .ok u

/-- What the writer gives for the settings stands in their file, to its end or not, and can be written again. -/
theorem onStore_saveSettings (h : Writable directory st) (s : Settings) :
    ∃ st', onStore (saveSettings y directory s) st = (.ok (y.write s.toData).2, st') ∧
      st'.look (settingsFile directory) = .ok (.text (y.write s.toData).1) ∧ Writable directory st' := by
  obtain ⟨t, hmade, hwrite⟩ := h
  obtain ⟨u, hu⟩ := hwrite (y.write s.toData).1
  obtain ⟨hkeeps, hlook, hagain⟩ := Store.write_spec hu
  refine ⟨u, ?_, hlook, u, (Store.createDirectories_spec hmade).2 u hkeeps, hagain⟩
  have hcreate : (Files.createDirectories directory : StateM Store _).run st = (.ok (), t) := run_change hmade
  have hput : (Files.write (settingsFile directory) (y.write s.toData).1 : StateM Store _).run t = (.ok (), u) :=
    run_change hu
  unfold saveSettings
  rw [onStore_lift_bind, hcreate]
  show onStore ((Files.write (settingsFile directory) (y.write s.toData).1 : StateM Store _) >>= fun r =>
    orFileFault r >>= fun _ => pure (y.write s.toData).2) t = _
  rw [onStore_lift_bind, hput]
  rfl

theorem look_of_writable (h : Writable directory st) : (∃ c, st.look (settingsFile directory) = .ok c) ∨
    ∃ p, st.look (settingsFile directory) = .error ⟨.noEntry, p⟩ := by
  obtain ⟨t, hmade, hwrite⟩ := h
  have hlocate : ∃ r, t.locate (settingsFile directory) = .ok r := by
    obtain ⟨u, hu⟩ := hwrite ""
    unfold Store.write at hu
    split at hu
    case h_3 => cases hu
    all_goals exact ⟨_, ‹_›⟩
  obtain ⟨r, hlocate⟩ := hlocate
  unfold Store.look
  obtain ⟨⟨p, c⟩, hst⟩ | hst := (Store.createDirectories_spec hmade).1.locate hlocate
  · rw [hst]
    cases c with
    | none => exact .inr ⟨_, rfl⟩
    | some c => exact .inl ⟨c, rfl⟩
  · rw [hst]
    exact .inr ⟨_, rfl⟩

variable (y) in
/-- The reader can make every value in the file with the settings, or says that the text is not valid. -/
def Legible (directory : String) (st : Store) : Prop :=
  ∀ text reason, st.look (settingsFile directory) = .ok (.text text) →
    SettingsFile.ofText y (.ofList (Text.unifyLineEnds text.toList)) ≠ .error reason

theorem exists_load_of_legible (hw : Writable directory st) (hl : Legible y directory st) :
    ∃ s ws, onStore (loadSettings y directory) st = (.ok (s, ws), st) ∧ 1 ≤ s.maxFixPasses := by
  suffices hfile : ∃ file, onStore (loadSettings y directory) st = (.ok (Settings.load file), st) by
    obtain ⟨file, hload⟩ := hfile
    exact ⟨_, _, hload, Settings.one_le_maxFixPasses_load file⟩
  obtain ⟨c, hlook⟩ | ⟨p, hlook⟩ := look_of_writable hw
  · cases c with
    | directory =>
      obtain ⟨reason, hread⟩ := onStore_readSettingsFile_directory hlook
      exact ⟨_, onStore_loadSettings hread⟩
    | text text =>
      cases hread : SettingsFile.ofText y (.ofList (Text.unifyLineEnds text.toList)) with
      | ok file => exact ⟨file, onStore_loadSettings (onStore_readSettingsFile_text hlook hread)⟩
      | error f => exact absurd hread (hl text f hlook)
  · exact ⟨_, onStore_loadSettings (onStore_readSettingsFile_missing hlook)⟩

theorem exists_fault_of_not_legible (hl : ¬Legible y directory st) :
    ∃ reason, onStore (loadSettings y directory) st = (.error (.value reason), st) := by
  simp only [Legible, not_forall, ne_eq, not_not, exists_prop] at hl
  obtain ⟨text, reason, hlook, hread⟩ := hl
  exact ⟨reason, onStore_loadSettings (onStore_readSettingsFile_text hlook hread)⟩

variable (y) in
/-- The settings are read back from what is written for them, if that does not break off. -/
def Rereads (s : Settings) : Prop :=
  (y.write s.toData).2 = none →
    y.read (.ofList (Text.unifyLineEnds (y.write s.toData).1.toList)) = .ok s.toData

theorem load_of_rereads (hlook : st.look (settingsFile directory) = .ok (.text (y.write s.toData).1))
    (hs : 1 ≤ s.maxFixPasses) (hwrite : (y.write s.toData).2 = none) (hread : Rereads y s) :
    onStore (loadSettings y directory) st = (.ok (s, []), st) ∧ Legible y directory st := by
  have hfile : SettingsFile.ofText y (.ofList (Text.unifyLineEnds (y.write s.toData).1.toList)) =
      .ok (.data s.toData) := by
    rw [SettingsFile.ofText, hread hwrite]
  constructor
  · rw [onStore_loadSettings (onStore_readSettingsFile_text hlook hfile)]
    show (Except.ok (Settings.load (.data s.toData)), st) = _
    rw [Settings.load_toData hs]
  · intro text reason htext
    rw [hlook] at htext
    cases htext
    rw [hfile]
    exact nofun

/-! ### One change -/

/-- What a change may give, and the store that it may leave, where the settings `s` are loaded with the warnings
`ws`: the value is refused and nothing is written; or the settings with the new value are there from now on; or the
writer breaks off, and the file is left with what it has written. -/
inductive Answer (y : YamlCodec) (directory key : String) (value : Data) (s : Settings) (ws : List SettingsWarning)
    (st : Store) : Except Abort (Except SettingsFault Settings × List SettingsWarning) × Store → Prop where
  | refused {e : SettingsFault} (h : Settings.Refused key value e) :
    Answer y directory key value s ws st (.ok (.error e, ws), st)
  | changed {s' : Settings} {st' : Store} (haccepted : ∀ e, ¬Settings.Refused key value e)
    (hset : s'.toEntries = Entries.insert key value s.toEntries) (hwrite : (y.write s'.toData).2 = none)
    (hload : onStore (loadSettings y directory) st' = (.ok (s', []), st')) :
    Answer y directory key value s ws st (.ok (.ok s', ws), st')
  | broken {s' : Settings} {st' : Store} {reason : String} (haccepted : ∀ e, ¬Settings.Refused key value e)
    (hset : s'.toEntries = Entries.insert key value s.toEntries) (hwrite : (y.write s'.toData).2 = some reason)
    (hlook : st'.look (settingsFile directory) = .ok (.text (y.write s'.toData).1)) :
    Answer y directory key value s ws st (.ok (.error (.notWritten reason), ws), st')

theorem onStore_changeSetting_of_error {e : Abort} (h : onStore (loadSettings y directory) st = (.error e, st)) :
    onStore (changeSetting y directory key value) st = (.error e, st) := by
  unfold changeSetting
  rw [onStore_bind, h]

theorem onStore_changeSetting_of_refused {ws : List SettingsWarning} {e : SettingsFault}
    (h : onStore (loadSettings y directory) st = (.ok (s, ws), st)) (hset : s.set key value = .error e) :
    onStore (changeSetting y directory key value) st = (.ok (.error e, ws), st) := by
  unfold changeSetting
  rw [onStore_bind, h]
  simp only [hset]
  rfl

theorem onStore_changeSetting_of_set {ws : List SettingsWarning} {s' : Settings} {reason? : Option String}
    (h : onStore (loadSettings y directory) st = (.ok (s, ws), st)) (hset : s.set key value = .ok s')
    (hsave : onStore (saveSettings y directory s') st = (.ok reason?, st')) :
    onStore (changeSetting y directory key value) st =
      (.ok (reason?.elim (.ok s') fun reason => .error (.notWritten reason), ws), st') := by
  unfold changeSetting
  rw [onStore_bind, h]
  simp only [hset]
  rw [onStore_bind, hsave]
  cases reason? <;> rfl

variable (y) in
/-- The settings that a change is about to write. -/
def tried? (directory key : String) (value : Data) (st : Store) : Option Settings :=
  match (onStore (loadSettings y directory) st).1 with
  | .ok (s, _) => (s.set key value).toOption
  | .error _ => none

/-- Where settings can be loaded, a change is refused, or there from now on, or breaks off. They can be loaded again
if it does not. -/
theorem changeSetting_step (hw : Writable directory st) (hl : Legible y directory st)
    (hreads : ∀ s, tried? y directory key value st = some s → Rereads y s) :
    let result := onStore (changeSetting y directory key value) st
    (∃ s ws, onStore (loadSettings y directory) st = (.ok (s, ws), st) ∧
      Answer y directory key value s ws st result) ∧
    Writable directory result.2 ∧
    ((∀ s, tried? y directory key value st = some s → (y.write s.toData).2 = none) →
      Legible y directory result.2) := by
  obtain ⟨s, ws, hload, hpos⟩ := exists_load_of_legible hw hl
  cases hset : s.set key value with
  | error e =>
    have hrefused := Settings.refused_of_set hpos hset
    rw [onStore_changeSetting_of_refused hload hset]
    exact ⟨⟨s, ws, hload, .refused hrefused⟩, hw, fun _ => hl⟩
  | ok s' =>
    have htried : tried? y directory key value st = some s' := by
      rw [tried?, hload]
      show (s.set key value).toOption = some s'
      rw [hset]
      rfl
    obtain ⟨hentries, hpos', haccepted⟩ := Settings.toEntries_of_set hset
    obtain ⟨st', hsave, hlook, hw'⟩ := onStore_saveSettings (y := y) hw s'
    rw [onStore_changeSetting_of_set hload hset hsave]
    cases hwrite : (y.write s'.toData).2 with
    | none =>
      obtain ⟨hload', hl'⟩ := load_of_rereads hlook hpos' hwrite (hreads s' htried)
      exact ⟨⟨s, ws, hload, .changed haccepted hentries hwrite hload'⟩, hw', fun _ => hl'⟩
    | some reason =>
      refine ⟨⟨s, ws, hload, .broken haccepted hentries hwrite hlook⟩, hw', fun hnone => ?_⟩
      rw [hnone s' htried] at hwrite
      cases hwrite

/-- Where settings cannot be loaded, nothing changes. -/
theorem changeSetting_of_not_legible (key : String) (value : Data) (hl : ¬Legible y directory st) :
    ∃ reason, onStore (changeSetting y directory key value) st = (.error (.value reason), st) := by
  obtain ⟨reason, hload⟩ := exists_fault_of_not_legible hl
  exact ⟨reason, onStore_changeSetting_of_error hload⟩

theorem writable_changeSetting (hw : Writable directory st)
    (hreads : ∀ s, tried? y directory key value st = some s → Rereads y s) :
    Writable directory (onStore (changeSetting y directory key value) st).2 := by
  by_cases hl : Legible y directory st
  · exact (changeSetting_step hw hl hreads).2.1
  · obtain ⟨reason, hresult⟩ := changeSetting_of_not_legible key value hl
    rw [hresult]
    exact hw

/-! ### Changes one after another -/

/-- The store after some changes. -/
def storeAfter (y : YamlCodec) (directory : String) (st : Store) (calls : List (String × Data)) : Store :=
  calls.foldl (fun st call => (onStore (changeSetting y directory call.1 call.2) st).2) st

/-- The settings that changes are about to write. -/
def tried (y : YamlCodec) (directory : String) : Store → List (String × Data) → List Settings
  | _, [] => []
  | st, (key, value) :: calls =>
    (tried? y directory key value st).toList ++
      tried y directory (onStore (changeSetting y directory key value) st).2 calls

/-- Through any changes the store stays writable. It stays legible while the writer does not break off, and without
being legible it stays as it is. -/
theorem storeAfter_spec (hw : Writable directory st) {calls : List (String × Data)}
    (hreads : ∀ s ∈ tried y directory st calls, Rereads y s) :
    let now := storeAfter y directory st calls
    Writable directory now ∧ (¬Legible y directory st → now = st) ∧
      (Legible y directory st → (∀ s ∈ tried y directory st calls, (y.write s.toData).2 = none) →
        Legible y directory now) := by
  induction calls generalizing st with
  | nil => exact ⟨hw, fun _ => rfl, fun hl _ => hl⟩
  | cons call calls ih =>
    obtain ⟨key, value⟩ := call
    have hfirst : ∀ s, tried? y directory key value st = some s → Rereads y s := fun s hs =>
      hreads s (List.mem_append_left _ (by simp [hs]))
    obtain ⟨hwritable, hsame, hlegible⟩ := ih (writable_changeSetting hw hfirst) fun s hs =>
      hreads s (List.mem_append_right _ hs)
    refine ⟨hwritable, fun hl => ?_, fun hl hwritten => ?_⟩
    · obtain ⟨reason, hresult⟩ := changeSetting_of_not_legible key value hl
      rw [hresult] at hsame
      show storeAfter y directory (onStore (changeSetting y directory key value) st).2 calls = st
      rw [hresult]
      exact hsame hl
    · have hstep := (changeSetting_step hw hl hfirst).2.2 fun s hs =>
        hwritten s (List.mem_append_left _ (by simp [hs]))
      exact hlegible hstep fun s hs => hwritten s (List.mem_append_right _ hs)

theorem tried_append (calls : List (String × Data)) : tried y directory st (calls ++ [(key, value)]) =
    tried y directory st calls ++ (tried? y directory key value (storeAfter y directory st calls)).toList := by
  induction calls generalizing st with
  | nil => exact List.append_nil _
  | cons call calls ih =>
    rw [List.cons_append, tried, ih, tried, List.append_assoc]
    rfl

/-- After any changes, the next one is refused and leaves the store as it is, or gives the settings that were loaded
before it with the value under its key only changed, and these are loaded from then on, or the writer breaks off. It
finds settings to load unless the reader cannot make a value in the file; this is so while the writer did not break
off, if it was so at the start. If it was not so, no change ever does anything. -/
theorem changeSetting_run (hw : Writable directory st) {calls : List (String × Data)}
    (hreads : ∀ s ∈ tried y directory st (calls ++ [(key, value)]), Rereads y s) :
    let now := storeAfter y directory st calls
    let result := onStore (changeSetting y directory key value) now
    (Legible y directory now → ∃ s ws, onStore (loadSettings y directory) now = (.ok (s, ws), now) ∧
      Answer y directory key value s ws now result) ∧
    (¬Legible y directory now → ∃ reason, result = (.error (.value reason), now)) ∧
    (Legible y directory st → (∀ s ∈ tried y directory st calls, (y.write s.toData).2 = none) →
      Legible y directory now) ∧
    (¬Legible y directory st → now = st) := by
  intro now result
  simp only [tried_append, List.mem_append, or_imp, forall_and, Option.mem_toList] at hreads
  obtain ⟨hbefore, hlast⟩ := hreads
  obtain ⟨hwritable, hsame, hlegible⟩ := storeAfter_spec hw hbefore
  exact ⟨fun hl => (changeSetting_step hwritable hl hlast).1, changeSetting_of_not_legible key value, hlegible, hsame⟩

/-- A text is read in stages: its tokens, their node, the data of the node. -/
theorem ofYaml_of_tokens (ts : List Data.Yaml.Token) (n : Data.Yaml.Node) {d : Data}
    (hallowed : text.toList.all Data.Yaml.isAllowed = true)
    (htokens : Data.Yaml.tokens? ((Text.unifyLineEnds text.toList).map fun c => if c = '\u0085' then '\n' else c) =
      some ts) (hnode : Data.Yaml.Node.ofTokens? ts = some n) (hdata : n.data = .ok d) :
    Data.ofYaml text = .ok d := by
  unfold Data.ofYaml
  rw [hallowed]
  simp only [Bool.not_true, Bool.false_eq_true, if_false]
  rw [htokens, Option.bind_some, hnode]
  exact hdata

/-- Writes a map with one entry on each line, where texts stand without quotes. -/
def lineCodec : YamlCodec where
  read := Data.ofYaml
  write
    | .map es => (String.join (es.map fun
      | (k, .text t) => k ++ ": " ++ t ++ "\n"
      | (k, d) => k ++ ": " ++ d.json ++ "\n"), none)
    | d => (d.json ++ "\n", none)

theorem ofText_unclosed :
    SettingsFile.ofText lineCodec (.ofList (Text.unifyLineEnds "[\n".toList)) = .ok (.unreadable "no valid YAML") := by
  have hends : Text.unifyLineEnds "[\n".toList = "[\n".toList := by decide
  have hallowed : "[\n".toList.all Data.Yaml.isAllowed = true := by decide
  have hnone : (Data.Yaml.tokens? ((Text.unifyLineEnds "[\n".toList).map fun c =>
      if c = '\u0085' then '\n' else c)).bind Data.Yaml.Node.ofTokens? = none := by decide +kernel
  have hread : Data.ofYaml "[\n" = .error .invalid := by
    unfold Data.ofYaml
    rw [hallowed]
    simp only [Bool.not_true, Bool.false_eq_true, if_false]
    rw [hnone]
  rw [hends, String.ofList_toList, SettingsFile.ofText, show lineCodec.read = Data.ofYaml from rfl, hread]

theorem write_explain : lineCodec.write ({ explain := .bool true } : Settings).toData =
    ("output_format: rich\nmax_fix_passes: 3\nignored_rules: []\nexplain: true\n", none) := by
  decide +kernel

open Data.Yaml in
theorem rereads_explain : Rereads lineCodec { explain := .bool true } := by
  unfold Rereads
  rw [write_explain, show lineCodec.read = Data.ofYaml from rfl]
  dsimp only
  refine fun _ => ofYaml_of_tokens
    [.mapStart,
      .key, .word "output_format", .value, .word "rich",
      .key, .word "max_fix_passes", .value, .word "3",
      .key, .word "ignored_rules", .value, .flowListStart, .flowListEnd,
      .key, .word "explain", .value, .word "true", .blockEnd]
    (.map [(.word "output_format", .word "rich"), (.word "max_fix_passes", .word "3"),
      (.word "ignored_rules", .list []), (.word "explain", .word "true")]) ?_ ?_ rfl ?_
  · decide +kernel
  · decide +kernel
  · have hformat : wordValue "output_format" = .ok (.text "output_format") := rfl
    have hpasses : wordValue "max_fix_passes" = .ok (.text "max_fix_passes") := rfl
    have hrules : wordValue "ignored_rules" = .ok (.text "ignored_rules") := rfl
    have hexplain : wordValue "explain" = .ok (.text "explain") := rfl
    have hrich : wordValue "rich" = .ok (.text "rich") := rfl
    have hthree : wordValue "3" = .ok (.int 3) := rfl
    have htrue : wordValue "true" = .ok (.bool true) := rfl
    simp only [Data.Yaml.Node.data, entriesData, itemsData, keyText?, hformat, hpasses, hrules, hexplain, hrich,
      hthree, htrue]
    rfl

/-- Two changes that are refused and one that is not, on a file that is no YAML. -/
theorem changeSetting_run_unclosed :
    let st : Store := { files := [(["cfg", "settings.yaml"], "[\n")] }
    let calls : List (String × Data) := [("colour", .text "blue"), ("max_fix_passes", .int 0)]
    Writable "cfg" st ∧ (∀ s ∈ tried lineCodec "cfg" st (calls ++ [("explain", .bool true)]), Rereads lineCodec s) ∧
      Legible lineCodec "cfg" st ∧
      let now := storeAfter lineCodec "cfg" st calls
      ∃ s ws, onStore (loadSettings lineCodec "cfg") now = (.ok (s, ws), now) ∧
        Answer lineCodec "cfg" "explain" (.bool true) s ws now
          (onStore (changeSetting lineCodec "cfg" "explain" (.bool true)) now) := by
  intro st calls
  have hw : Writable "cfg" st := ⟨_, rfl, fun _ => ⟨_, rfl⟩⟩
  have hlook : st.look (settingsFile "cfg") = .ok (.text "[\n") := rfl
  have hload : onStore (loadSettings lineCodec "cfg") st = (.ok ({}, [.unreadable "no valid YAML"]), st) :=
    onStore_loadSettings (onStore_readSettingsFile_text hlook ofText_unclosed)
  have hl : Legible lineCodec "cfg" st := by
    intro text reason htext
    rw [hlook] at htext
    cases htext
    rw [ofText_unclosed]
    exact nofun
  have hcolour : onStore (changeSetting lineCodec "cfg" "colour" (.text "blue")) st = _ :=
    onStore_changeSetting_of_refused hload rfl
  have hpasses : onStore (changeSetting lineCodec "cfg" "max_fix_passes" (.int 0)) st = _ :=
    onStore_changeSetting_of_refused hload rfl
  have htried : tried lineCodec "cfg" st (calls ++ [("explain", .bool true)]) = [{ explain := .bool true }] := by
    simp only [calls, List.cons_append, List.nil_append, tried, hcolour, hpasses, tried?, hload]
    rfl
  have hreads : ∀ s ∈ tried lineCodec "cfg" st (calls ++ [("explain", .bool true)]), Rereads lineCodec s := by
    rw [htried, List.forall_mem_singleton]
    exact rereads_explain
  have hnone : tried lineCodec "cfg" st calls = [] := by
    simp only [calls, tried, hcolour, tried?, hload]
    rfl
  obtain ⟨hanswer, -, hlegible, -⟩ := changeSetting_run hw hreads
  refine ⟨hw, hreads, hl, hanswer (hlegible hl ?_)⟩
  rw [hnone]
  exact fun s hs => by cases hs

end Cli
end SiteConf
