/-
# MatterTimeCtl.Storage.Atomic — all-or-nothing replacement of state files.

`store`, the key-value store and everything built on them change at most one state file, and change it
in one step: `Atomic x w w₁` says that a later run sees the world `w` up to some point of `x` and `w₁`
from then on, that `x` succeeds only with `w₁` in place and fails only with `w` still in place.
-/
import MatterTimeCtl.Storage.Frame

namespace MatterTimeCtl

open Files Effect

/-! ## Replacing and removing a state file -/

/-- The world with the bytes in place of a state file. -/
def World.put (w : World) (p : Path) (bytes : ByteArray) : World :=
  { w with
    files := Function.update w.files p (some bytes)
    history := if p = identityPath then { w.history with owed := false } else w.history }

/-- The world without a state file. -/
def World.remove (ext : Externals) (w : World) (p : Path) : World :=
  { w with
    files := Function.update w.files p none
    history := { w.history with
      orphaned := w.history.orphaned ++ w.history.joinedTo ext (w.files p) } }

/-- What a JSON file of a value holds. -/
def jsonFile {α : Type} (json : Codec α) (value : α) : ByteArray :=
  (json.encode value ++ "\n").toUTF8

section

variable {w w' : World}

theorem World.SameOn.put (h : w.Same w') (p : Path) (bytes : ByteArray) :
    (w.put p bytes).Same (w'.put p bytes) := by
  refine ⟨h.files.update p _, ?_⟩
  simp only [World.put, h.history]

theorem World.SameOn.remove (ext : Externals) (h : w.Same w') {p : Path} (hp : IsState p) :
    (w.remove ext p).Same (w'.remove ext p) := by
  refine ⟨h.files.update p _, ?_⟩
  simp only [World.remove, h.history, h.at_ hp]

@[simp] theorem World.put_files_self (w : World) (p : Path) (bytes : ByteArray) :
    (w.put p bytes).files p = some bytes := by simp [World.put]

theorem World.put_files_of_ne (w : World) {p q : Path} (h : q ≠ p) (bytes : ByteArray) :
    (w.put p bytes).files q = w.files q := by simp [World.put, h]

@[simp] theorem World.remove_files_self (ext : Externals) (w : World) (p : Path) :
    (w.remove ext p).files p = none := by simp [World.remove]

theorem World.remove_files_of_ne (ext : Externals) (w : World) {p q : Path} (h : q ≠ p) :
    (w.remove ext p).files q = w.files q := by simp [World.remove, h]

end

/-- What is seen of the result at the paths in `S`: `w₁` after success, and `w` after a failure, which
takes a fault. -/
def SettledOn (S : Path → Prop) {ε α : Type} (plan : (c : Call) → c.Move → Prop) (w w₁ : World) :
    Except ε α → World → Prop
  | .ok _, w' => w₁.SameOn S w'
  | .error _, w' => w.SameOn S w' ∧ ¬ Smooth plan

/-- What a later run sees of the result. -/
abbrev Settled {ε α : Type} (plan : (c : Call) → c.Move → Prop) (w w₁ : World) :
    Except ε α → World → Prop := SettledOn IsState plan w w₁

/-- **All or nothing.**  To a later run the program takes the world from `w` to `w₁` in one step, which
it has taken when it succeeds and has not taken when it fails. -/
def Atomic {α : Type} (ext : Externals) (plan : (c : Call) → c.Move → Prop) (x : Action α)
    (w w₁ : World) : Prop :=
  Safe (planned ext plan) (fun w' => w.Same w' ∨ w₁.Same w') x.run (Settled plan w w₁) w

section Atomic

variable {ext : Externals} {plan : (c : Call) → c.Move → Prop}

/-! ## The temporary file -/

section Replace

variable {S : Path → Prop} {t p : Path}

/-- The scratch file holds the bytes, unless there was a fault. -/
def Written {ε α : Type} (plan : (c : Call) → c.Move → Prop) (t : Path) (bytes : ByteArray) :
    Except ε α → World → Prop
  | .ok _, w' => w'.files t = some bytes
  | .error _, _ => ¬ Smooth plan

theorem not_smooth_of_fail {c : FileCall Path} {later : Timestamp} {n : Nat}
    (h : plan (.file c) ⟨later, Io.fail n⟩) : ¬ Smooth plan :=
  fun smooth => absurd (smooth _ _ h) Io.noConfusion

theorem openTruncate_spec (ht : ¬ S t) (w : World) :
    Safe (planned ext plan) (w.SameOn S) (ask (.file (.openTruncate t)) >>= orFail .io).run
      (Written plan t ByteArray.empty) w := by
  refine Safe.ask_bind (.refl w) fun m hm => safe_orFail.mpr ⟨keepsOn_next (by exact ht) w m, ?_⟩
  obtain ⟨later, io⟩ := m
  cases io with
  | succeed => exact Function.update_self ..
  | fail n => exact not_smooth_of_fail hm.2

theorem writeAll_spec (ht : ¬ S t) {w : World} {old : ByteArray} (hold : w.files t = some old)
    (bytes : ByteArray) :
    Safe (planned ext plan) (w.SameOn S) (ask (.file (.writeAll t bytes)) >>= orFail .io).run
      (Written plan t (old ++ bytes)) w := by
  refine Safe.ask_bind (.refl w) fun m hm => safe_orFail.mpr ⟨keepsOn_next (by exact ht) w m, ?_⟩
  obtain ⟨later, io⟩ := m
  cases io with
  | succeed =>
      have answered : (planned ext plan).answer (.file (.writeAll t bytes)) w ⟨later, Io.succeed⟩ =
          .ok () := by
        show onExisting w.files t = .ok ()
        rw [onExisting, hold]
      rw [answered]
      show Function.update w.files t ((w.files t).map (· ++ bytes)) t = some (old ++ bytes)
      rw [Function.update_self, hold, Option.map_some]
  | fail n => exact not_smooth_of_fail hm.2

theorem syncAll_spec {w : World} {bytes : ByteArray} (hold : w.files t = some bytes) :
    Safe (planned ext plan) (w.SameOn S) (ask (.file (.syncAll t)) >>= orFail .io).run
      (Written plan t bytes) w := by
  refine Safe.ask_bind (.refl w) fun m hm => safe_orFail.mpr ⟨keepsOn_next (by trivial) w m, ?_⟩
  obtain ⟨later, io⟩ := m
  cases io with
  | succeed =>
      have answered : (planned ext plan).answer (.file (.syncAll t)) w ⟨later, Io.succeed⟩ =
          .ok () := by
        show onExisting w.files t = .ok ()
        rw [onExisting, hold]
      rw [answered]
      exact hold
  | fail n => exact not_smooth_of_fail hm.2

/-- Writing a scratch file shows nowhere else, and success means that all bytes are in it. -/
theorem writePrivate_spec (ht : ¬ S t) (bytes : ByteArray) (w : World) :
    Safe (planned ext plan) (w.SameOn S) (writePrivate t bytes).run
      (Written plan t (bytes ++ "\n".toUTF8)) w := by
  unfold writePrivate
  refine (openTruncate_spec ht w).run_bind (fun _ h => h) (fun _ w₁ h₁ opened => ?_)
    fun _ _ _ fault => fault
  refine (writeAll_spec ht opened bytes).run_bind (fun _ => h₁.trans) (fun _ w₂ h₂ body => ?_)
    fun _ _ _ fault => fault
  refine (writeAll_spec ht body _).run_bind (fun _ h => h₁.trans (h₂.trans h))
    (fun _ w₃ h₃ newline => ?_) fun _ _ _ fault => fault
  rw [ByteArray.empty_append] at newline
  exact (syncAll_spec newline).mono (fun _ h => h₁.trans (h₂.trans (h₃.trans h))) fun _ _ _ h => h

/-! ## The replacement -/

/-- Renaming the finished scratch file over the target is the step. -/
theorem rename_spec (ht : ¬ S t) {w w₁ : World} (h₁ : w.SameOn S w₁) {bytes : ByteArray}
    (hb : w₁.files t = some bytes) :
    Safe (planned ext plan) (fun w' => w.SameOn S w' ∨ (w.put p bytes).SameOn S w')
      (ask (.file (.rename t p)) >>= orFail .io).run (SettledOn S plan w (w.put p bytes)) w₁ := by
  refine Safe.ask_bind (.inl h₁) fun m hm => safe_orFail.mpr ?_
  obtain ⟨later, io⟩ := m
  cases io with
  | succeed =>
      have renamed : (w.put p bytes).SameOn S
          ((planned ext plan).next (.file (.rename t p)) w₁ ⟨later, Io.succeed⟩) := by
        refine ⟨h₁.files.rename_scratch ht hb, ?_⟩
        show History.afterFile ext w₁.history w₁.files (.rename t p) = _
        simp only [History.afterFile, hb, Option.isSome_some, and_true, World.put, h₁.history]
      have answered : (planned ext plan).answer (.file (.rename t p)) w₁ ⟨later, Io.succeed⟩ =
          .ok () := by
        show onExisting w₁.files t = .ok ()
        rw [onExisting, hb]
      rw [answered]
      exact ⟨.inr renamed, renamed⟩
  | fail n =>
      have kept : w.SameOn S
          ((planned ext plan).next (.file (.rename t p)) w₁ ⟨later, Io.fail n⟩) :=
        ⟨h₁.files, h₁.history⟩
      exact ⟨.inl kept, kept, not_smooth_of_fail hm.2⟩

theorem createAll_spec (d : Dir) (w : World) :
    Safe (planned ext plan) (w.SameOn S) (ask (.dir (.createAll d)) >>= orFail .io).run
      (fun r _ => r = .ok () ∨ ¬ Smooth plan) w := by
  refine Safe.ask_bind (.refl w) fun m hm => safe_orFail.mpr ⟨keepsOn_next (by trivial) w m, ?_⟩
  obtain ⟨later, io⟩ := m
  cases io with
  | succeed => exact .inl rfl
  | fail n => exact .inr fun smooth => absurd (smooth _ _ hm.2) Io.noConfusion

/-- **Build aside, then rename.**  The common part of `store` and the key-value store, seen at any paths
that the scratch file is not one of. -/
theorem replace_spec (ht : ¬ S t) (d : Dir) (body : ByteArray) (w : World) :
    Safe (planned ext plan)
      (fun w' => w.SameOn S w' ∨ (w.put p (body ++ "\n".toUTF8)).SameOn S w') (do
        ask (.dir (.createAll d)) >>= orFail .io
        writePrivate t body
        ask (.file (.rename t p)) >>= orFail .io : Action Unit).run
      (SettledOn S plan w (w.put p (body ++ "\n".toUTF8))) w := by
  refine (createAll_spec d w).run_bind (fun _ => .inl) (fun _ w₁ h₁ _ => ?_)
    fun _ _ h fault => ⟨h, fault.resolve_left nofun⟩
  refine (writePrivate_spec ht body w₁).run_bind (fun _ h => .inl (h₁.trans h))
    (fun _ w₂ h₂ written => ?_) fun _ _ h fault => ⟨h₁.trans h, fault⟩
  exact rename_spec ht (h₁.trans h₂) written

/-- A store operation reports its own error, and has settled either way. -/
theorem kvStore_specOn (key : UInt16) (ht : ¬ S (withExtension (keyPath key) "tmp"))
    (data : ByteArray) (w : World) :
    Safe (planned ext plan)
      (fun w' => w.SameOn S w' ∨ (w.put (keyPath key) (data ++ "\n".toUTF8)).SameOn S w')
      (kvStore key data).run (fun r w' => ∃ done, r = .ok done ∧
        SettledOn S plan w (w.put (keyPath key) (data ++ "\n".toUTF8)) done w') w := by
  refine (replace_spec ht .matter data w).attempt_bind (fun _ h => h) fun r w₁ hw h => ?_
  cases r with
  | ok _ => exact safe_run_pure.mpr ⟨hw, _, rfl, h⟩
  | error _ => exact safe_run_pure.mpr ⟨hw, _, rfl, h⟩

end Replace

theorem readText_jsonFile {α : Type} {files : FileMap Path} {p : Path} {json : Codec α} {value : α}
    (h : files p = some (jsonFile json value)) :
    readText files p = .ok (json.encode value ++ "\n") := readText_ok h

theorem jsonFile_eq {α : Type} (json : Codec α) (value : α) :
    (json.encode value).toUTF8 ++ "\n".toUTF8 = jsonFile json value :=
  String.toByteArray_append.symm

/-- `store` replaces the file it is given, seen at any paths that its scratch file is not one of. -/
theorem store_specOn {α : Type} {S : Path → Prop} {p : Path}
    (ht : ¬ S (withExtension p "json.tmp")) (json : Codec α) (value : α) (w : World) :
    Safe (planned ext plan)
      (fun w' => w.SameOn S w' ∨ (w.put p (jsonFile json value)).SameOn S w')
      (store json p value).run (SettledOn S plan w (w.put p (jsonFile json value))) w := by
  rw [← jsonFile_eq]
  exact replace_spec ht p.dir _ w

/-- To a later run `store` replaces the file it is given. -/
theorem store_atomic {α : Type} {p : Path} (ht : ¬ IsState (withExtension p "json.tmp"))
    (json : Codec α) (value : α) (w : World) :
    Atomic ext plan (store json p value) w (w.put p (jsonFile json value)) := store_specOn ht json value w

/-! ## The key-value store -/

theorem kvStore_spec (key : UInt16) (data : ByteArray) (w : World) :
    Safe (planned ext plan)
      (fun w' => w.Same w' ∨ (w.put (keyPath key) (data ++ "\n".toUTF8)).Same w')
      (kvStore key data).run (fun r w' => ∃ done, r = .ok done ∧
        Settled plan w (w.put (keyPath key) (data ++ "\n".toUTF8)) done w') w :=
  kvStore_specOn key (not_isState_keyTmp key) data w

theorem kvRemove_spec (key : UInt16) (w : World) :
    Safe (planned ext plan) (fun w' => w.Same w' ∨ (w.remove ext (keyPath key)).Same w')
      (kvRemove key).run (fun r w' => ∃ done, r = .ok done ∧
        Settled plan w (w.remove ext (keyPath key)) done w') w := by
  refine Safe.ask_bind (.inl (.refl w)) fun m hm => ?_
  obtain ⟨later, io⟩ := m
  cases io with
  | succeed =>
      have removed : (w.remove ext (keyPath key)).Same
          ((planned ext plan).next (.file (.removeFile (keyPath key))) w ⟨later, Io.succeed⟩) :=
        ⟨.refl _ _, rfl⟩
      have answered : (planned ext plan).answer (.file (.removeFile (keyPath key))) w
          ⟨later, Io.succeed⟩ = onExisting w.files (keyPath key) := rfl
      rw [answered]
      -- a key that is not there counts as removed
      cases hp : w.files (keyPath key) with
      | none =>
          simp only [onExisting, hp]
          exact safe_run_pure.mpr ⟨.inr removed, _, rfl, removed⟩
      | some _ =>
          simp only [onExisting, hp]
          exact safe_run_pure.mpr ⟨.inr removed, _, rfl, removed⟩
  | fail n =>
      have kept : w.Same
          ((planned ext plan).next (.file (.removeFile (keyPath key))) w ⟨later, Io.fail n⟩) :=
        ⟨.refl _ _, rfl⟩
      exact safe_run_pure.mpr ⟨.inl kept, _, rfl, kept, not_smooth_of_fail hm.2⟩

/-- A store operation that reports its own error, turned into a failure. -/
theorem atomic_of_done {x : Action (Except MatterError Unit)} {w w₁ : World}
    (h : Safe (planned ext plan) (fun w' => w.Same w' ∨ w₁.Same w') x.run
      (fun r w' => ∃ done, r = .ok done ∧ Settled plan w w₁ done w') w) (what : String) :
    Atomic ext plan (x >>= orFail (.matter what)) w w₁ := by
  refine h.run_bind (fun _ h => h) (fun r w₁ hw h => ?_) fun _ _ _ h => ?_
  · obtain ⟨done, hr, h⟩ := h
    obtain rfl := Except.ok.inj hr
    cases r <;> exact safe_orFail.mpr ⟨hw, h⟩
  · obtain ⟨_, hr, _⟩ := h
    exact absurd hr (by simp)

/-- The file a fabric is persisted in. -/
def fabricPath (ext : Externals) (fabIdx : FabIdx) : Path := keyPath (ext.fabricKey fabIdx)

theorem fabricPath_injective : Function.Injective (fabricPath ext) :=
  keyPath_injective.comp ext.fabricKey_injective

theorem isState_fabric (fabIdx : FabIdx) : IsState (fabricPath ext fabIdx) := isState_key _

theorem identity_ne_fabric (fabIdx : FabIdx) : identityPath ≠ fabricPath ext fabIdx :=
  identity_ne_key _

theorem devices_ne_fabric (fabIdx : FabIdx) : devicesPath ≠ fabricPath ext fabIdx :=
  devices_ne_key _

/-- The blob of a fabric. -/
def fabricBlob (ext : Externals) (f : Fabric) : ByteArray := ext.encodeFabric f ++ "\n".toUTF8

theorem persistFabric_atomic {fabrics : List Fabric} {fabIdx : FabIdx} {f : Fabric}
    (hf : fabrics.find? (·.fabIdx = fabIdx) = some f) (w : World) :
    Atomic ext plan (persistFabric ext fabrics fabIdx) w
      (w.put (fabricPath ext fabIdx) (fabricBlob ext f)) := by
  unfold persistFabric
  rw [hf]
  exact atomic_of_done (kvStore_spec _ _ w) _

theorem removePersistedFabric_atomic (fabIdx : FabIdx) (w : World) :
    Atomic ext plan (removePersistedFabric ext fabIdx) w
      (w.remove ext (fabricPath ext fabIdx)) :=
  atomic_of_done (kvRemove_spec _ w) _

/-! ## Reading -/

/-- What a read of the file can return under the plan. -/
def Reads (plan : (c : Call) → c.Move → Prop) (files : FileMap Path) (p : Path)
    (raw : Except IoError String) : Prop :=
  ∃ m, plan (.file (.readToString p)) m ∧
    raw = (FileCall.readToString p).answer files m.choice

theorem Reads.same {w w' : World} {p : Path} {raw : Except IoError String} (hp : IsState p)
    (h : w.Same w') : Reads plan w'.files p raw ↔ Reads plan w.files p raw := by
  have hfile := h.at_ hp
  have hanswer : ∀ io, (FileCall.readToString p).answer w'.files io =
      (FileCall.readToString p).answer w.files io := by
    intro io
    cases io with
    | succeed => simp only [FileCall.answer, readText, hfile]
    | fail n => rfl
  unfold Reads
  simp only [hanswer]

/-- A read that returns a text returns that of the file. -/
theorem Reads.ok {files : FileMap Path} {p : Path} {text : String}
    (h : Reads plan files p (.ok text)) : readText files p = .ok text := by
  obtain ⟨⟨later, io⟩, -, hraw⟩ := h
  cases io with
  | succeed => exact hraw.symm
  | fail n => exact absurd hraw (by simp [FileCall.answer])

theorem pathExists_spec {p : Path} (w : World) :
    Safe (planned ext plan) w.Same (ask (.file (.pathExists p))).run
      (fun r _ => r = .ok (w.files p).isSome) w := by
  refine Safe.ask (.refl w) fun m _ => ⟨quiet_next (by trivial) w m, ?_⟩
  obtain ⟨later, io⟩ := m
  cases io <;> rfl

theorem read_spec {p : Path} (w : World) :
    Safe (planned ext plan) w.Same (ask (.file (.readToString p))).run
      (fun r _ => ∃ raw, r = .ok raw ∧ Reads plan w.files p raw) w :=
  Safe.ask (.refl w) fun m hm => ⟨quiet_next (by trivial) w m, _, rfl, m, hm.2, rfl⟩

theorem loadOrDefault_spec {p : Path} (w : World) :
    Safe (planned ext plan) w.Same (loadOrDefault ext p).run
      (fun r _ => ∃ raw, r = .ok (registryOf ext raw) ∧ Reads plan w.files p raw) w := by
  refine Safe.ask_bind (.refl w) fun m hm => safe_run_pure.mpr ⟨quiet_next (by trivial) w m, ?_⟩
  exact ⟨_, rfl, m, hm.2, rfl⟩

/-! ## The registry -/

/-- The registry file replaced by one that `change` allows for what a read of it returned. -/
def RegistryChanged (ext : Externals) (plan : (c : Call) → c.Move → Prop) (w : World)
    (change : Devices → Devices → Prop) (w₁ : World) : Prop :=
  ∃ raw devices, Reads plan w.files devicesPath raw ∧ change (registryOf ext raw) devices ∧
    w₁ = w.put devicesPath (jsonFile ext.devicesJson devices)

/-- The registry with a record put under a node's key. -/
def Devices.Inserted (nodeId : NodeId) (old new : Devices) : Prop :=
  ∃ record, new = { nodes := old.nodes.insert (nodeKey nodeId) record }

/-- The registry with the record under a node's key dropped. -/
def Devices.Erased (nodeId : NodeId) (old new : Devices) : Prop :=
  new = { nodes := old.nodes.erase (nodeKey nodeId) }

/-- To a later run the registry has been changed, as `change` allows. -/
def SeenChanged (ext : Externals) (plan : (c : Call) → c.Move → Prop) (w : World)
    (change : Devices → Devices → Prop) (w' : World) : Prop :=
  ∃ w₁, RegistryChanged ext plan w change w₁ ∧ w₁.Same w'

/-- The registry with what a patch makes of a node's record in its place. -/
def Devices.Patched (nodeId : NodeId) (patch : DeviceRecord → Action DeviceRecord)
    (old new : Devices) : Prop :=
  ∃ record, (patch (old.nodes.getD (nodeKey nodeId) {})).run.Yields (.ok record) ∧
    new = { nodes := old.nodes.insert (nodeKey nodeId) record }

theorem Devices.Patched.inserted {nodeId : NodeId} {patch : DeviceRecord → Action DeviceRecord}
    {old new : Devices} (h : Devices.Patched nodeId patch old new) : Devices.Inserted nodeId old new := by
  obtain ⟨record, -, rfl⟩ := h
  exact ⟨record, rfl⟩

theorem SeenChanged.mono {change change' : Devices → Devices → Prop} {w w' : World}
    (h : ∀ old new, change old new → change' old new) (seen : SeenChanged ext plan w change w') :
    SeenChanged ext plan w change' w' := by
  obtain ⟨w₁, ⟨raw, devices, hraw, hchange, rfl⟩, same⟩ := seen
  exact ⟨_, ⟨raw, devices, hraw, h _ _ hchange, rfl⟩, same⟩

/-- What a later run sees of a registry change: it was made if it succeeded, and only then. -/
def RegistrySettled {ε α : Type} (ext : Externals) (plan : (c : Call) → c.Move → Prop) (w : World)
    (change : Devices → Devices → Prop) : Except ε α → World → Prop
  | .ok _, w' => SeenChanged ext plan w change w'
  | .error _, w' => w.Same w'

/-- The same, and what a failure takes besides a fault. -/
def RegistryMade (ext : Externals) (plan : (c : Call) → c.Move → Prop) (w : World)
    (change : Devices → Devices → Prop) (refuses : Failure → Prop) : Except Failure Unit → World → Prop
  | .ok _, w' => SeenChanged ext plan w change w'
  | .error e, w' => w.Same w' ∧ (Smooth plan → refuses e)

theorem RegistryMade.settled {change change' : Devices → Devices → Prop} {refuses : Failure → Prop}
    {w w' : World} {r : Except Failure Unit} (h : ∀ old new, change old new → change' old new)
    (made : RegistryMade ext plan w change refuses r w') : RegistrySettled ext plan w change' r w' := by
  cases r with
  | ok _ => exact SeenChanged.mono h made
  | error _ => exact made.1

theorem store_changes {change : Devices → Devices → Prop} {w w₁ : World} (h₁ : w.Same w₁)
    {raw : Except IoError String} (hraw : Reads plan w.files devicesPath raw) {devices : Devices}
    (hchange : change (registryOf ext raw) devices) (refuses : Failure → Prop) :
    Safe (planned ext plan) (fun w' => w.Same w' ∨ SeenChanged ext plan w change w')
      (store ext.devicesJson devicesPath devices).run (RegistryMade ext plan w change refuses) w₁ := by
  have changed : ∀ w', (w₁.put devicesPath (jsonFile ext.devicesJson devices)).Same w' →
      SeenChanged ext plan w change w' := fun w' h =>
    ⟨_, ⟨raw, devices, hraw, hchange, rfl⟩, (h₁.put _ _).trans h⟩
  refine (store_atomic not_isState_devicesTmp _ _ w₁).mono ?_ ?_
  · rintro w' (h | h)
    · exact .inl (h₁.trans h)
    · exact .inr (changed w' h)
  · intro r w' _ h
    cases r with
    | ok _ => exact changed w' h
    | error _ => exact ⟨h₁.trans h.1, fun smooth => absurd smooth h.2⟩

/-- **An update**: the record becomes what the patch makes of it, and only a fault or the patch stands in
the way. -/
theorem updateDevice_patched (nodeId : NodeId) {patch : DeviceRecord → Action DeviceRecord}
    (hpatch : ∀ d, (patch d).run.Uses Talk) (w : World) :
    Safe (planned ext plan)
      (fun w' => w.Same w' ∨ SeenChanged ext plan w (Devices.Patched nodeId patch) w')
      (updateDevice ext devicesPath nodeId patch).run
      (RegistryMade ext plan w (Devices.Patched nodeId patch)
        fun e => ∃ d, (patch d).run.Yields (.error e)) w := by
  refine (loadOrDefault_spec w).run_bind (fun _ => .inl) (fun devices w₁ h₁ read => ?_)
    fun _ _ _ read => ?_
  · obtain ⟨raw, hr, hraw⟩ := read
    obtain rfl := Except.ok.inj hr
    refine ((safe_talk (hpatch _) w₁).and_returns (Program.returns_yields _)).run_bind
      (fun _ h => .inl (h₁.trans h)) (fun record w₂ h₂ yields => ?_)
      fun e w₂ h₂ yields => ⟨h₁.trans h₂, fun _ => ⟨_, yields.2⟩⟩
    exact store_changes (h₁.trans h₂) hraw ⟨record, yields.2, rfl⟩ _
  · obtain ⟨_, hr, -⟩ := read
    cases hr

theorem updateDevice_spec (nodeId : NodeId) {patch : DeviceRecord → Action DeviceRecord}
    (hpatch : ∀ d, (patch d).run.Uses Talk) (w : World) :
    Safe (planned ext plan)
      (fun w' => w.Same w' ∨ SeenChanged ext plan w (Devices.Inserted nodeId) w')
      (updateDevice ext devicesPath nodeId patch).run
      (RegistrySettled ext plan w (Devices.Inserted nodeId)) w :=
  (updateDevice_patched nodeId hpatch w).mono
    (fun _ h => h.imp_right (SeenChanged.mono fun _ _ => Devices.Patched.inserted))
    fun _ _ _ => RegistryMade.settled fun _ _ => Devices.Patched.inserted

/-- **A removal**: only a fault stands in its way. -/
theorem removeDevice_made (nodeId : NodeId) (w : World) :
    Safe (planned ext plan)
      (fun w' => w.Same w' ∨ SeenChanged ext plan w (Devices.Erased nodeId) w')
      (removeDevice ext devicesPath nodeId).run
      (RegistryMade ext plan w (Devices.Erased nodeId) fun _ => False) w := by
  refine (loadOrDefault_spec w).run_bind (fun _ => .inl) (fun devices w₁ h₁ read => ?_)
    fun _ _ _ read => ?_
  · obtain ⟨raw, hr, hraw⟩ := read
    obtain rfl := Except.ok.inj hr
    exact store_changes h₁ hraw (show Devices.Erased nodeId (registryOf ext raw) _ from rfl) _
  · obtain ⟨_, hr, -⟩ := read
    cases hr

theorem removeDevice_spec (nodeId : NodeId) (w : World) :
    Safe (planned ext plan)
      (fun w' => w.Same w' ∨ SeenChanged ext plan w (Devices.Erased nodeId) w')
      (removeDevice ext devicesPath nodeId).run
      (RegistrySettled ext plan w (Devices.Erased nodeId)) w :=
  (removeDevice_made nodeId w).mono (fun _ h => h) fun _ _ _ => RegistryMade.settled fun _ _ h => h

end Atomic

end MatterTimeCtl
