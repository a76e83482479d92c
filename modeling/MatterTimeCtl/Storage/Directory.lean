/-
# MatterTimeCtl.Storage.Directory — whose directory it is, and what happens to its mode.

Whether a storage directory counts as the tool's own is decided anew on each run, from entries that the
tool itself creates right after the check.  A run that finds no such entry in a directory that is not
empty warns and changes nothing; but it leaves a lock file behind, and with it the next run takes the
directory for its own.
-/
import MatterTimeCtl.Scenario
import MatterTimeCtl.Controller.Footprint
import MatterTimeCtl.Effect.Reach

namespace MatterTimeCtl

open Files Effect

/-! ## Foreign directories -/

/-- One of the tool's marker entries is there. -/
def HasMarker (w : World) : Prop :=
  w.files identityPath ≠ none ∨ w.matterDir = true ∨ w.files lockPath ≠ none ∨ w.files devicesPath ≠ none

/-- The storage directory has a file in it. -/
def HasFile (files : FileMap Path) : Prop := ∃ name, (files ⟨.storage, name⟩).isSome = true

/-- The storage directory exists with this mode, and is not empty. -/
structure Occupied (mode : Nat) (w : World) : Prop where
  mode : w.storageMode = some mode
  entry : HasFile w.files ∨ w.matterDir = true

/-- The log has grown since `w`, by entries that include the message. -/
def Warned (message : String) (w w' : World) : Prop :=
  ∃ more, w'.log = w.log ++ more ∧ (LogLevel.warn, message) ∈ more

/-- Calls that keep the mode of the storage directory and do not empty it. -/
def KeepsDir : Call → Prop
  | .dir (.setPermissions _ _) => False
  | .file (.rename source target) => source.dir = target.dir
  | .file (.removeFile p) => p.dir = .matter
  | _ => True

theorem Locked.keepsDir {c : Call} (h : Locked c) : KeepsDir c := by
  unfold KeepsDir
  split
  · exact h
  · exact h.2.2
  · exact h
  · trivial

theorem Looks.keepsDir {c : Call} (h : Looks c) : KeepsDir c := by
  unfold Looks at h
  split at h <;> trivial

section Moves

variable {ext : Externals} {plan : (c : Call) → c.Move → Prop} {config : Config} {mode : Nat}
  {w w' : World}

/-- Some file stays when files are only written, renamed within their directory, or removed elsewhere. -/
theorem hasFile_next {c : FileCall Path} (hc : KeepsDir (.file c)) (io : Io) {files : FileMap Path}
    (h : HasFile files) : HasFile (c.next files io) := by
  obtain ⟨name, hfile⟩ := h
  have update : ∀ {files : FileMap Path} (p : Path) (b : Option ByteArray),
      (files ⟨.storage, name⟩).isSome = true → (p = ⟨.storage, name⟩ → b.isSome = true) →
      HasFile (Function.update files p b) := by
    intro files p b hfile hb
    refine ⟨name, ?_⟩
    by_cases hp : p = ⟨.storage, name⟩
    · subst hp
      rw [Function.update_self]
      exact hb rfl
    · rwa [Function.update_of_ne (Ne.symm hp)]
  have appended : ∀ (p : Path) (bytes : ByteArray), p = ⟨.storage, name⟩ →
      ((files p).map (· ++ bytes)).isSome = true := by
    rintro p bytes rfl
    rwa [Option.isSome_map]
  cases c with
  | pathExists p | readToString p | read p | syncAll p => cases io <;> exact ⟨name, hfile⟩
  | openTruncate p =>
      cases io with
      | succeed => exact update p _ hfile fun _ => rfl
      | fail n => exact ⟨name, hfile⟩
  | writeAll p bytes =>
      cases io with
      | succeed => exact update p _ hfile (appended p _)
      | fail n => exact update p _ hfile (appended p _)
  | rename source target =>
      cases io with
      | fail n => exact ⟨name, hfile⟩
      | succeed =>
          simp only [FileCall.next]
          cases hs : files source with
          | none => exact ⟨name, hfile⟩
          | some bytes =>
              obtain ⟨dir, target⟩ := target
              obtain rfl : source.dir = dir := hc
              -- the target is a file of the directory, or neither path is in it
              by_cases hdir : source.dir = .storage
              · rw [hdir]
                exact ⟨target, by simp⟩
              · refine update _ _ ?_ fun h => absurd (congrArg Path.dir h) hdir
                rwa [Function.update_of_ne]
                rintro rfl
                exact hdir rfl
  | removeFile p =>
      cases io with
      | fail n => exact ⟨name, hfile⟩
      | succeed =>
          refine update p _ hfile ?_
          rintro rfl
          cases (show Dir.storage = .matter from hc)

/-- **The mode stays**, and so does some entry, under every call that is not a chmod. -/
theorem occupied_next {c : Call} (hc : KeepsDir c) (m : c.Move) (h : Occupied mode w) :
    Occupied mode ((planned ext plan).next c w m) := by
  obtain ⟨later, choice⟩ := m
  cases c with
  | file c =>
      cases choice with
      | succeed => exact ⟨h.mode, h.entry.imp_left (hasFile_next hc .succeed)⟩
      | fail n => exact ⟨h.mode, h.entry.imp_left (hasFile_next hc (.fail n))⟩
  | dir c =>
      -- creating keeps a mode that is set already
      have getD : ∀ m, some (w.storageMode.getD m) = some mode := fun m => by rw [h.mode]; rfl
      show Occupied mode { dirEffect w c choice with clock := later }
      unfold dirEffect
      split
      · exact ⟨getD _, h.entry⟩
      · exact ⟨h.mode, .inr rfl⟩
      · exact ⟨getD _, h.entry⟩
      · exact ⟨h.mode, .inr rfl⟩
      · exact hc.elim
      · exact ⟨h.mode, h.entry⟩
  | timed secs future =>
      cases future with
      | initiate nodeId => exact ⟨h.mode, h.entry⟩
      | commission peer passcode nodeId => exact ⟨h.mode, h.entry⟩
      | completeViaCase peer fabric nodeId =>
          obtain ⟨processed, reply⟩ := choice
          cases processed <;> exact ⟨h.mode, h.entry⟩
  | wire nodeId r =>
      show Occupied mode { wireEffect w nodeId r choice with clock := later }
      unfold wireEffect
      split <;> exact ⟨h.mode, h.entry⟩
  | _ => exact ⟨h.mode, h.entry⟩

/-- Nothing is ever taken out of the log. -/
theorem log_next (c : Call) (w : World) (m : c.Move) :
    ∃ more, ((planned ext plan).next c w m).log = w.log ++ more := by
  have same : ∀ w' : World, w'.log = w.log → ∃ more, w'.log = w.log ++ more := fun _ h =>
    ⟨[], by rw [h, List.append_nil]⟩
  obtain ⟨later, choice⟩ := m
  cases c with
  | log level message => exact ⟨[(level, message)], rfl⟩
  | file c => cases choice <;> exact same _ rfl
  | dir c =>
      refine same { dirEffect w c choice with clock := later } ?_
      unfold dirEffect
      split <;> rfl
  | timed secs future =>
      refine same { futureEffect ext w choice.processed future with clock := later } ?_
      unfold futureEffect
      split <;> first | rfl | (split <;> rfl)
  | wire nodeId r =>
      refine same { wireEffect w nodeId r choice with clock := later } ?_
      unfold wireEffect
      split <;> rfl
  | _ => exact same _ rfl

/-! ## The check -/

/-- Only time has passed. -/
def Waited (w w' : World) : Prop := ∃ t, w' = { w with clock := t }

theorem Waited.refl (w : World) : Waited w w := ⟨w.clock, rfl⟩

/-- Asking whether an entry is there. -/
theorem pathExists_waited {p : Path} (h : Waited w w') :
    Safe (planned ext plan) (Waited w) (ask (.file (.pathExists p))).run
      (fun r _ => r = .ok (w.files p).isSome) w' := by
  obtain ⟨t, rfl⟩ := h
  refine Safe.ask ⟨t, rfl⟩ fun m _ => ?_
  obtain ⟨later, io⟩ := m
  cases io <;> exact ⟨⟨later, rfl⟩, rfl⟩

theorem dirExists_waited {d : Dir} (h : Waited w w') :
    Safe (planned ext plan) (Waited w) (ask (.dir (.exists d))).run
      (fun r _ => r = .ok (dirAnswer w (.exists d) ())) w' := by
  obtain ⟨t, rfl⟩ := h
  refine Safe.ask ⟨t, rfl⟩ fun m _ => ?_
  cases d <;> exact ⟨⟨m.later, rfl⟩, rfl⟩

/-- Without a marker, a directory that is not empty is not ours. -/
theorem isOurStorageDir_spec (hmarker : ¬ HasMarker w) (hw : Occupied mode w) (h : Waited w w') :
    Safe (planned ext plan) (Waited w) isOurStorageDir.run (fun r _ => r = .ok false) w' := by
  simp only [HasMarker, not_or, not_not, Bool.not_eq_true] at hmarker
  obtain ⟨hid, hdir, hlock, hdev⟩ := hmarker
  unfold isOurStorageDir anyMarkerExists
  refine Safe.run_bind (R := fun r _ => r = .ok false) ?_ (fun _ h => h) (fun b w₁ h₁ hb => ?_)
    fun _ _ _ => nofun
  · refine (pathExists_waited h).run_bind (fun _ h => h) (fun b w₁ h₁ hb => ?_) fun _ _ _ => nofun
    obtain rfl : b = false := by rw [Except.ok.inj hb, hid, Option.isSome_none]
    refine (dirExists_waited h₁).run_bind (fun _ h => h) (fun b w₂ h₂ hb => ?_) fun _ _ _ => nofun
    obtain rfl : b = false := (Except.ok.inj hb).trans hdir
    refine (pathExists_waited h₂).run_bind (fun _ h => h) (fun b w₃ h₃ hb => ?_) fun _ _ _ => nofun
    obtain rfl : b = false := by rw [Except.ok.inj hb, hlock, Option.isSome_none]
    refine (pathExists_waited h₃).mono (fun _ h => h) fun r _ _ hr => ?_
    rw [hr, hdev, Option.isSome_none]
  · obtain rfl := Except.ok.inj hb
    obtain ⟨t, rfl⟩ := h₁
    refine Safe.ask_bind ⟨t, rfl⟩ fun ⟨later, entries⟩ hm => ?_
    cases entries with
    | error e => exact safe_run_pure.mpr ⟨⟨later, rfl⟩, rfl⟩
    | ok names =>
        -- the listing is true, so it is not empty
        have hnames : names.isEmpty = false := by
          have hlist : ∀ name, name ∈ names ↔ w.HasEntry .storage name := hm.1.2
          rcases hw.entry with ⟨name, hfile⟩ | hmatter
          · exact List.isEmpty_eq_false_iff_exists_mem.mpr ⟨name, (hlist name).mpr (.inl hfile)⟩
          · exact List.isEmpty_eq_false_iff_exists_mem.mpr
              ⟨"matter", (hlist "matter").mpr (.inr ⟨rfl, rfl, hmatter⟩)⟩
        exact safe_run_pure.mpr ⟨⟨later, rfl⟩, congrArg _ hnames⟩

/-- A foreign directory is left as it is, with a warning. -/
theorem prepareStorageDir_spec (hmarker : ¬ HasMarker w) (hw : Occupied mode w) :
    Safe (planned ext plan) (Occupied mode) (prepareStorageDir config).run
      (fun r w' => r = .ok () ∧ Warned (foreignDirWarning config) w w') w := by
  have waited : ∀ w', Waited w w' → Occupied mode w' := by
    rintro w' ⟨t, rfl⟩
    exact ⟨hw.mode, hw.entry⟩
  unfold prepareStorageDir
  refine (dirExists_waited (.refl w)).run_bind waited (fun b w₁ h₁ hb => ?_) fun _ _ _ => nofun
  obtain rfl : b = true := by
    rw [Except.ok.inj hb, dirAnswer, hw.mode, Option.isSome_some]
  simp only [Bool.not_true, Bool.false_eq_true, if_false]
  refine (isOurStorageDir_spec hmarker hw h₁).run_bind waited (fun b w₂ h₂ hb => ?_) fun _ _ _ => nofun
  obtain rfl := Except.ok.inj hb
  simp only [Bool.false_eq_true, if_false]
  refine Safe.ask (waited w₂ h₂) fun m _ => ⟨occupied_next (by trivial) m (waited w₂ h₂), rfl, ?_⟩
  obtain ⟨t, rfl⟩ := h₂
  exact ⟨[(.warn, foreignDirWarning config)], rfl, List.mem_singleton_self _⟩

/-! ## Whole runs -/

theorem warned_next {message : String} {c : Call} (m : c.Move) (h : Warned message w w') :
    Warned message w ((planned ext plan).next c w' m) := by
  obtain ⟨more, hlog, hmem⟩ := h
  have grown : ∃ more', ((planned ext plan).next c w' m).log = w'.log ++ more' := log_next c w' m
  obtain ⟨more', hlog'⟩ := grown
  exact ⟨more ++ more', by rw [hlog', hlog, List.append_assoc], List.mem_append_left _ hmem⟩

theorem keepsDir_run (ext : Externals) (config : Config) (op : Op) :
    (do
      lockStorage config op
      let result ← attempt (runLocked ext config op)
      ask (.unlock op result)
      orFail id result : Action op.Out).run.Uses KeepsDir := by
  refine uses_run_bind (uses_run_bind (uses_run_bind (uses_ask trivial) fun _ => uses_orFail _ _)
    fun _ => uses_run_bind (uses_ask trivial) fun granted => ?_) fun _ => ?_
  · cases granted with
    | false => exact uses_run_throw _
    | true => exact uses_run_pure _
  · exact uses_run_bind (uses_attempt ((locked_runLocked ext config op).mono fun _ => Locked.keepsDir))
      fun _ => uses_run_bind (uses_ask trivial) fun _ => uses_orFail _ _

/-- A run that starts without a marker keeps the mode, and has warned when it is over. -/
theorem run_occupied (hmarker : ¬ HasMarker w) (hw : Occupied mode w) (op : Op) :
    Safe (planned ext plan) (Occupied mode) (run ext config op).run
      (fun _ w' => Warned (foreignDirWarning config) w w') w := by
  unfold run
  refine (prepareStorageDir_spec hmarker hw).run_bind (fun _ h => h) (fun _ w₁ h₁ warned => ?_)
    fun _ _ _ h => nomatch h.1
  have rest := Safe.of_uses (E := planned ext plan) (keepsDir_run ext config op)
    (J := fun w' => Occupied mode w' ∧ Warned (foreignDirWarning config) w w')
    (fun c w' m hc _ h => ⟨occupied_next hc m h.1, warned_next m h.2⟩) ⟨h₁, warned.2⟩
  exact rest.mono (fun _ h => h.1) fun _ _ _ h => h.2

/-- The runs of every command that uses the storage directory, under any configuration. -/
def StorageRuns (ext : Externals) (p : Prog (Except Failure Output)) : Prop :=
  ∃ config command, p = (runCommand ext config command).run

/-- What only looks changes nothing in the directory. -/
theorem looks_safe {α : Type} {p : Prog α} (hp : p.Uses Looks)
    (hw : ¬ HasMarker w ∧ Occupied mode w) :
    Safe (planned ext plan) (fun w' => ¬ HasMarker w' ∧ Occupied mode w') p
      (fun _ w' => ¬ HasMarker w' ∧ Occupied mode w') w := by
  refine Safe.of_uses hp (fun c w' m hc _ h => ⟨?_, occupied_next hc.keepsDir m h.2⟩) hw
  obtain ⟨later, choice⟩ := m
  cases c with
  | file c =>
      cases c with
      | pathExists p | readToString p => cases choice <;> exact h.1
      | _ => exact hc.elim
  | dir c =>
      cases c with
      | «exists» d | readDir d => exact h.1
      | _ => exact hc.elim
  | log _ _ | now | ntpSynchronized => exact h.1
  | _ => exact hc.elim

theorem storageRuns_occupied {p : Prog (Except Failure Output)} (hp : StorageRuns ext p)
    (hmarker : ¬ HasMarker w) (hw : Occupied mode w) :
    Safe (planned ext plan) (Occupied mode) p (fun _ _ => True) w := by
  obtain ⟨config, command, rfl⟩ := hp
  have ran : ∀ {w op}, ¬ HasMarker w ∧ Occupied mode w → Safe (planned ext plan) (Occupied mode)
      (run ext config op).run (fun _ _ => True) w := fun h =>
    (run_occupied h.1 h.2 _).mono (fun _ h => h) fun _ _ _ _ => trivial
  have said : ∀ {w} (out : Output), Occupied mode w → Safe (planned ext plan) (Occupied mode)
      (pure out : Action Output).run (fun _ _ => True) w := fun _ h => safe_run_pure.mpr ⟨h, trivial⟩
  -- what comes before and after the run of an operation only looks
  cases command with
  | status filter =>
      exact (looks_safe (looks_status ext config filter) ⟨hmarker, hw⟩).mono (fun _ h => h.2)
        fun _ _ _ _ => trivial
  | commission onboarding =>
      exact (ran ⟨hmarker, hw⟩).run_bind (fun _ h => h) (fun _ _ h _ => said _ h) fun _ _ _ _ => trivial
  | inspect target =>
      refine (looks_safe (looks_resolveOrEmpty ext target) ⟨hmarker, hw⟩).run_bind (fun _ h => h.2)
        (fun targets w₁ h₁ _ => ?_) fun _ _ _ _ => trivial
      split
      · exact said _ h₁.2
      · exact (ran h₁).run_bind (fun _ h => h) (fun _ _ h _ => said _ h) fun _ _ _ _ => trivial
  | decommission target =>
      refine (looks_safe (looks_resolve ext target) ⟨hmarker, hw⟩).run_bind (fun _ h => h.2)
        (fun targets w₁ h₁ _ => ?_) fun _ _ _ _ => trivial
      refine (ran h₁).run_bind (fun _ h => h) (fun nodes w₂ h₂ _ => ?_) fun _ _ _ _ => trivial
      have looked := Safe.of_uses (E := planned ext plan) (J := Occupied mode)
        (looks_loadOrDefault ext devicesPath)
        (fun _ _ m hc _ h => occupied_next (Looks.keepsDir hc) m h) h₂
      exact looked.run_bind (fun _ h => h) (fun _ _ h _ => said _ h) fun _ _ _ _ => trivial
  | sync target time =>
      refine (looks_safe (looks_manualTimeOf ext config time) ⟨hmarker, hw⟩).run_bind (fun _ h => h.2)
        (fun manualTime w₁ h₁ _ => ?_) fun _ _ _ _ => trivial
      refine (looks_safe (uses_ask (c := .ntpSynchronized) trivial) h₁).run_bind (fun _ h => h.2)
        (fun ntp w₂ h₂ _ => ?_) fun _ _ _ _ => trivial
      split
      · exact (looks_safe (uses_run_bind (uses_ask (c := .log _ _) trivial) fun _ => uses_run_pure _)
          h₂).mono (fun _ h => h.2) fun _ _ _ _ => trivial
      · refine (looks_safe (looks_resolve ext target) h₂).run_bind (fun _ h => h.2)
          (fun targets w₃ h₃ _ => ?_) fun _ _ _ _ => trivial
        exact (ran h₃).run_bind (fun _ h => h) (fun _ _ h _ => said _ h) fun _ _ _ _ => trivial

/-- **A foreign directory is left untouched, with a warning, by every run that finds no marker in it.**
Over every sequence of runs that each start without a marker, the mode of a directory that exists and is
not empty stays what it was, at every point; and every run of an operation that starts without a marker
has warned by the time it is over. -/
theorem foreign_dir_untouched (ext : Externals) {plan : (c : Call) → c.Move → Prop} {mode : Nat}
    {w₀ w : World} (foreign : Occupied mode w₀)
    (runs : SessionsFrom (planned ext plan) (fun w => ¬ HasMarker w) (StorageRuns ext) w₀ w) :
    w.storageMode = some mode ∧ (¬ HasMarker w → ∀ config op, Safe (planned ext plan)
      (fun w' => w'.storageMode = some mode) (run ext config op).run
      (fun _ w' => Warned (foreignDirWarning config) w w') w) := by
  have hw : Occupied mode w :=
    runs.invariant (fun _ hp _ hmarker hw => storageRuns_occupied hp hmarker hw) foreign
  exact ⟨hw.mode, fun hmarker config op => (run_occupied hmarker hw op).mono (fun _ h => h.mode)
    fun _ _ _ h => h⟩

end Moves

/-! ## A directory with somebody's notes in it -/


def notesPath : Path := ⟨.storage, "notes.txt"⟩

/-- A directory that holds nothing but somebody's notes. -/
def notesDir : World :=
  { Scenario.freshHost with
    files := Function.update (fun _ => none) notesPath (some "\n".toUTF8)
    storageMode := some 0o755 }

/-- The same after a run that was stopped right after its warning. -/
def notesDirWarned : World :=
  { notesDir with log := [(.warn, foreignDirWarning Scenario.config)] }

/-- The same after a run that was stopped right after it had opened the lock file. -/
def notesDirLocked : World :=
  { notesDirWarned with files := Function.update notesDir.files lockPath (some ByteArray.empty) }

theorem occupied_notesDir : Occupied 0o755 notesDir :=
  ⟨rfl, .inl ⟨"notes.txt", by simp [notesDir, notesPath]⟩⟩

theorem notesDir_files_of_ne {p : Path} (h : p ≠ notesPath) : notesDir.files p = none := by
  simp only [notesDir, Function.update_of_ne h]

theorem not_hasMarker_notesDir : ¬ HasMarker notesDir := by
  rintro (h | h | h | h)
  · exact h (notesDir_files_of_ne (by decide))
  · cases h
  · exact h (notesDir_files_of_ne (by decide))
  · exact h (notesDir_files_of_ne (by decide))

theorem lists_notesDir (name : String) : name ∈ ["notes.txt"] ↔ notesDir.HasEntry .storage name := by
  unfold World.HasEntry
  rw [List.mem_singleton]
  constructor
  · rintro rfl
    exact .inl (by simp [notesDir, notesPath])
  · rintro (h | ⟨-, -, h⟩)
    · by_contra hne
      have hpath : (⟨.storage, name⟩ : Path) ≠ notesPath := fun heq => hne (congrArg Path.name heq)
      rw [notesDir_files_of_ne hpath] at h
      cases h
    · cases h

theorem can_pathExists_none {p : Path} (h : p ≠ notesPath) :
    Can anything (ask (.file (.pathExists p))).run (fun r w => r = .ok false ∧ w = notesDir) notesDir := by
  refine Can.ask ⟨noon, .succeed⟩ ⟨⟨le_rfl, trivial⟩, trivial⟩ ⟨?_, rfl⟩
  exact congrArg (fun b : Option ByteArray => Except.ok b.isSome) (notesDir_files_of_ne h)

theorem can_find_noMarker :
    Can anything isOurStorageDir.run (fun r w => r = .ok false ∧ w = notesDir) notesDir := by
  have none_ : Can anything anyMarkerExists.run (fun r w => r = .ok false ∧ w = notesDir) notesDir := by
    refine Can.run_bind ((can_pathExists_none (by decide)).mono ?_)
    rintro _ _ ⟨rfl, rfl⟩
    refine ⟨_, rfl, Can.run_bind (Can.ask ⟨noon, ()⟩ ⟨⟨le_rfl, trivial⟩, trivial⟩ ⟨_, rfl, ?_⟩)⟩
    refine Can.run_bind ((can_pathExists_none (by decide)).mono ?_)
    rintro _ _ ⟨rfl, rfl⟩
    exact ⟨_, rfl, can_pathExists_none (by decide)⟩
  refine Can.run_bind (none_.mono ?_)
  rintro _ _ ⟨rfl, rfl⟩
  refine ⟨_, rfl, Can.run_bind (Can.ask ⟨noon, .ok ["notes.txt"]⟩ ⟨⟨le_rfl, ?_⟩, trivial⟩ ⟨_, rfl, ?_⟩)⟩
  · exact lists_notesDir
  · exact can_done.mpr ⟨rfl, rfl⟩

/-- The first run warns. -/
theorem can_warn_notesDir : Can anything (prepareStorageDir Scenario.config).run
    (fun r w => r = .ok () ∧ w = notesDirWarned) notesDir := by
  refine Can.run_bind (Can.ask ⟨noon, ()⟩ ⟨⟨le_rfl, trivial⟩, trivial⟩ ⟨_, rfl, ?_⟩)
  refine Can.run_bind (can_find_noMarker.mono ?_)
  rintro _ _ ⟨rfl, rfl⟩
  exact ⟨_, rfl, Can.ask ⟨noon, ()⟩ ⟨⟨le_rfl, trivial⟩, trivial⟩ ⟨rfl, rfl⟩⟩

theorem session_warned : Session anything (StorageRuns reference) notesDir notesDirWarned := by
  have runs : May anything (runCommand reference Scenario.config (.commission Scenario.onboarding)).run
      (· = notesDirWarned) notesDir :=
    May.run_left (May.run_left (can_warn_notesDir.mono fun _ _ h => h.2).may)
  obtain ⟨w, session, rfl⟩ := runs.session (P := StorageRuns reference) ⟨_, _, rfl⟩
  exact session

/-- After a run that was stopped right after its warning, the next one warns again. -/
theorem notes_left_alone : ¬ HasMarker notesDirWarned ∧ notesDirWarned.storageMode = some 0o755 ∧
    ∀ config op, Safe (planned reference fun _ _ => True) (fun w' => w'.storageMode = some 0o755)
      (run reference config op).run
      (fun _ w' => Warned (foreignDirWarning config) notesDirWarned w') notesDirWarned := by
  have unmarked : ¬ HasMarker notesDirWarned := not_hasMarker_notesDir
  obtain ⟨mode, warns⟩ := foreign_dir_untouched reference occupied_notesDir
    (.single ⟨not_hasMarker_notesDir, session_warned⟩)
  exact ⟨unmarked, mode, warns unmarked⟩

/-- The first run goes on to open the lock file. -/
theorem session_notesDir : Session anything (StorageRuns reference) notesDir notesDirLocked := by
  have runs : May anything (runCommand reference Scenario.config (.commission Scenario.onboarding)).run
      (· = notesDirLocked) notesDir := by
    refine May.run_left (Can.run_may (can_warn_notesDir.mono ?_))
    rintro _ _ ⟨rfl, rfl⟩
    refine ⟨_, rfl, May.run_left (May.run_left (May.run_left ?_))⟩
    exact May.call (m := ⟨noon, .succeed⟩) ⟨⟨le_rfl, trivial⟩, trivial⟩ (.here _ rfl)
  obtain ⟨w, session, rfl⟩ := runs.session (P := StorageRuns reference) ⟨_, _, rfl⟩
  exact session

/-- **A foreign directory is re-permissioned.**  The second run finds the lock file of the first. -/
theorem notes_directory_taken : Occupied 0o755 notesDir ∧ ¬ HasMarker notesDir ∧
    ∃ w, Sessions (planned reference fun _ _ => True) (StorageRuns reference) notesDir w ∧
      w.storageMode = some 0o700 := by
  refine ⟨occupied_notesDir, not_hasMarker_notesDir, ?_⟩
  have second : May anything (runCommand reference Scenario.config (.commission Scenario.onboarding)).run
      (·.storageMode = some 0o700) notesDirLocked := by
    have hx := (Scenario.anyPlan {}).exec (prepareStorageDir Scenario.config).run notesDirLocked
    refine May.run_left (May.run_left ⟨_, _, _, hx, by decide +kernel⟩)
  obtain ⟨w, session, hw⟩ := second.session (P := StorageRuns reference) ⟨_, _, rfl⟩
  exact ⟨w, .tail (.single session_notesDir) session, hw⟩

end MatterTimeCtl
