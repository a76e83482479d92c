/-
# MatterTimeCtl.Storage.Roll — the storage directory as a roll of members.

What three kinds of files and the devices out there amount to is a roll (`World.roll`): the identity without its
counter is the authority, the counter the number the next device gets, the devices that were joined are the members,
each with the root it trusts, and devices.json is the roster.  A step of a run either does not show in the roll or is
one step of the machine (`Refines`), and this module proves it for `ensureFabric` and for every operation.  Half-made
fabrics, fabrics that are discarded again and new labels do not show.
-/
import MatterTimeCtl.Storage.Bootstrap
import MatterTimeCtl.Storage.Follow
import MatterTimeCtl.Roster.Machine

namespace MatterTimeCtl

open Files Effect Roster

/-! ## The roll -/

/-- The identity without its counter. -/
structure Credentials where
  fabricId : UInt64
  controllerNodeId : UInt64
  rcacPrivkeyHex : String
  deriving DecidableEq

def Identity.credentials (identity : Identity) : Credentials :=
  { fabricId := identity.fabricId, controllerNodeId := identity.controllerNodeId,
    rcacPrivkeyHex := identity.rcacPrivkeyHex }

section Roll

variable (ext : Externals)

/-- The root is that of the fabric of these credentials: they hold its private key and its fabric id. -/
structure Credentials.Certifies (c : Credentials) (root : Rcac) : Prop where
  key : ∃ priv : PrivKey, c.rcacPrivkeyHex = hexEncode priv.toList ∧ root.publicKey = ext.publicKey priv
  fabricId : root.fabricId = c.fabricId

/-- Node ids count from 1, and devices trust the root of the authority they were joined under. -/
def membership : Rules Credentials Rcac NodeId where
  Issues := Credentials.Certifies ext
  first := 1
  succ := (· + 1)

/-- The identity on disk, where it reads as one. -/
def World.identity? (w : World) : Option Identity :=
  match readText w.files identityPath with
  | .ok text => okOf (ext.identityJson.decode text)
  | .error _ => none

/-- **The roll of a storage directory.** -/
def World.roll (w : World) : Roll Credentials Rcac NodeId DeviceRecord where
  authority := (w.identity? ext).map Identity.credentials
  next := ((w.identity? ext).map Identity.nextDeviceNodeId).getD 1
  members := w.history.joined
  roster nodeId := (w.registry ext).nodes[nodeKey nodeId]?

/-- Consistent storage, whose registry is about devices that were joined. -/
structure Sane (w : World) : Prop where
  consistent : Consistent ext w
  keyed : ∀ key ∈ (w.registry ext).nodes, ∃ n ∈ (w.roll ext).numbers, key = nodeKey n

/-- **A step that the machine takes, too, or that does not show in the roll.** -/
def Refines (allowed : Act NodeId → Prop) (w w' : World) : Prop :=
  Sane ext w → Sane ext w' ∧
    (w'.roll ext = w.roll ext ∨ Moves (membership ext) allowed (w.roll ext) (w'.roll ext))

end Roll

section Facts

variable {ext : Externals} {plan : (c : Call) → c.Move → Prop} {config : Config} {ctx : Ctx}
  {allowed : Act NodeId → Prop} {w w' w₁ : World} {identity : Identity}

theorem identity?_eq_some : w.identity? ext = some identity ↔ HasIdentity ext w identity := by
  unfold World.identity? HasIdentity
  cases readText w.files identityPath with
  | error e => simp
  | ok text => cases h : ext.identityJson.decode text <;> simp [okOf, h]

/-- Storage without an identity, where there is one only if it reads. -/
theorem Consistent.identity?_eq_none (hw : Consistent ext w) :
    w.identity? ext = none ↔ w.files identityPath = none := by
  constructor
  · intro h
    by_contra hne
    obtain ⟨text, identity, _, hread, hparse, _⟩ := hw.identity hne
    rw [identity?_eq_some.mpr ⟨text, hread, hparse⟩] at h
    cases h
  · intro h
    rw [World.identity?, readText_none h]

theorem authority_of_hasIdentity (h : HasIdentity ext w identity) :
    (w.roll ext).authority = some identity.credentials := by
  rw [World.roll, identity?_eq_some.mpr h, Option.map_some]

theorem next_of_hasIdentity (h : HasIdentity ext w identity) :
    (w.roll ext).next = identity.nextDeviceNodeId := by
  simp only [World.roll, identity?_eq_some.mpr h, Option.map_some, Option.getD_some]

/-- The roll is made of the identity, the registry and the joined devices. -/
theorem roll_congr (hid : w'.files identityPath = w.files identityPath)
    (hreg : w'.registry ext = w.registry ext) (hjoined : w'.history.joined = w.history.joined) :
    w'.roll ext = w.roll ext := by
  simp only [World.roll, World.identity?, readText, hid, hreg, hjoined]

theorem World.SameOn.roll (h : w.Same w') : w'.roll ext = w.roll ext :=
  roll_congr (h.at_ isState_identity) h.registry (congrArg History.joined h.history)

theorem stable_sane : Stable (Sane ext) := fun _ _ h hw =>
  ⟨stable_consistent h hw.consistent, by rw [h.registry, h.roll]; exact hw.keyed⟩

theorem views_refines (allowed : Act NodeId → Prop) : Views (Refines ext allowed) where
  same h hw := ⟨stable_sane h hw, .inl h.roll⟩
  carries step h h' hv := by
    obtain ⟨sane, moves⟩ := step (stable_sane h.symm hv)
    rw [h.roll, h'.roll]
    exact ⟨stable_sane h' sane, moves⟩

/-- A step that does not show. -/
theorem refines_hidden (consistent : Consistent ext w₁) (hid : w₁.files identityPath = w.files identityPath)
    (hreg : w₁.registry ext = w.registry ext) (hjoined : w₁.history.joined = w.history.joined) :
    Refines ext allowed w w₁ := fun hw => by
  have hroll := roll_congr hid hreg hjoined
  refine ⟨⟨consistent, ?_⟩, .inl hroll⟩
  rw [hreg, hroll]
  exact hw.keyed

/-- Before the first bootstrap the roll is blank. -/
theorem Virgin.roll (h : Virgin w) : w.roll ext = (membership ext).blank := by
  have hid : w.identity? ext = none := by
    rw [World.identity?, readText_none (h.files _ isState_identity)]
  have hreg := Std.ExtTreeMap.isEmpty_iff.mp (registry_of_absent ext (h.files _ isState_devices))
  simp only [World.roll, Rules.blank, hid, hreg, h.history, Option.map_none, Option.getD_none]
  congr 1

theorem Virgin.sane (h : Virgin w) : Sane ext w where
  consistent := h.consistent
  keyed key hkey := by
    have hreg := Std.ExtTreeMap.isEmpty_iff.mp (registry_of_absent ext (h.files _ isState_devices))
    simp [hreg] at hkey

/-! ## Ensuring the fabric -/

/-- Only the last step of a bootstrap shows: the authority is founded. -/
theorem Sane.found (config : Config) {fabrics rest : List Fabric} {w₀ : World} {f : Fabric}
    (reads : ReadsSucceed plan) (hw : Sane ext w) (hload : ext.loadFabrics (blobsOf w.files) = .ok fabrics)
    (boot : Bootstraps ext plan fabrics w rest w₀) (minted : Minted ext rest f identity)
    (may : allowed .found) : Refines ext allowed (w₀.install ext f) (w₀.complete ext f identity) := by
  intro hw₁
  have hid : HasIdentity ext (w₀.complete ext f identity) identity :=
    ⟨_, readText_jsonFile (World.put_files_self ..), ext.identityJson.decode_encode _⟩
  have hreg : (w₀.complete ext f identity).registry ext = (w₀.install ext f).registry ext :=
    World.registry_put_of_ne _ devices_ne_identity _
  have hjoined : (w₀.complete ext f identity).history.joined = (w₀.install ext f).history.joined := by
    simp only [World.complete, World.put, if_true]
  have nobody : ((w₀.install ext f).roll ext).authority = none := by
    have absent : (w₀.install ext f).files identityPath = none := by
      rw [World.install_identity]
      exact boot.absent
    rw [World.roll, hw₁.consistent.identity?_eq_none.mpr absent, Option.map_none]
  have hroll : (w₀.complete ext f identity).roll ext =
      { (w₀.install ext f).roll ext with
        authority := some identity.credentials, next := (membership ext).first } := by
    rw [World.roll, identity?_eq_some.mpr hid, hreg, hjoined, Option.map_some, Option.map_some,
      Option.getD_some, minted.counter]
    rfl
  have seen : EnsureSeen ext plan config fabrics w (w₀.complete ext f identity) := .complete boot minted
  refine ⟨⟨hw.consistent.ensure reads hload seen, ?_⟩,
    .inr ⟨.found, may, hroll ▸ .found _ nobody⟩⟩
  rw [hreg, Roll.numbers, hroll]
  exact hw₁.keyed

/-- **The steps of `ensureFabric`** refine those of the machine. -/
theorem Sane.ensureSteps {fabrics : List Fabric} (reads : ReadsSucceed plan) (hw : Sane ext w)
    (hload : ext.loadFabrics (blobsOf w.files) = .ok fabrics) (may : allowed .found) :
    EnsureSteps ext plan config fabrics (Refines ext allowed) w := by
  have seen : ∀ {w₁}, EnsureSeen ext plan config fabrics w w₁ → Consistent ext w₁ := fun h =>
    hw.consistent.ensure reads hload h
  have installed : ∀ {w₀ : World} (f : Fabric), Consistent ext (w₀.install ext f) →
      Refines ext allowed w₀ (w₀.install ext f) := fun f h =>
    refines_hidden h (World.install_identity _ f) (World.registry_install _ f)
      (congrArg History.joined (World.install_history ext _ f))
  exact {
    relabel := fun read parsed loaded => installed _ (seen (.relabelled read parsed loaded))
    discard := fun loaded unread empty =>
      refines_hidden (seen (.cleared (.discarded loaded unread empty)))
        (World.remove_files_of_ne ext _ (identity_ne_fabric _)) (World.registry_remove _ _) rfl
    install := fun boot minted => installed _ (seen (.installed boot minted))
    complete := fun boot minted => hw.found config reads hload boot minted may }

/-! ## The operations -/

/-- The registry with a record written. -/
theorem roster_insert (devices : Devices) (n : NodeId) (record : DeviceRecord) :
    (fun m => (devices.nodes.insert (nodeKey n) record)[nodeKey m]?) =
      Function.update (fun m => devices.nodes[nodeKey m]?) n (some record) := by
  funext m
  rw [Std.ExtTreeMap.getElem?_insert]
  by_cases h : m = n
  · subst h
    simp
  · have hne : ¬ compare (nodeKey n) (nodeKey m) = .eq := fun heq =>
      h (nodeKey_injective (Std.LawfulEqCmp.eq_of_compare heq)).symm
    rw [if_neg hne, Function.update_of_ne h]

theorem roster_erase (devices : Devices) (n : NodeId) :
    (fun m => (devices.nodes.erase (nodeKey n))[nodeKey m]?) =
      Function.update (fun m => devices.nodes[nodeKey m]?) n none := by
  funext m
  rw [Std.ExtTreeMap.getElem?_erase]
  by_cases h : m = n
  · subst h
    simp
  · have hne : ¬ compare (nodeKey n) (nodeKey m) = .eq := fun heq =>
      h (nodeKey_injective (Std.LawfulEqCmp.eq_of_compare heq)).symm
    rw [if_neg hne, Function.update_of_ne h]

/-- A new registry: of the roll, only the roster changes. -/
theorem roll_putRegistry (ext : Externals) (w : World) (devices : Devices) :
    (w.put devicesPath (jsonFile ext.devicesJson devices)).roll ext =
      { w.roll ext with roster := fun m => devices.nodes[nodeKey m]? } := by
  have hid : (w.put devicesPath (jsonFile ext.devicesJson devices)).files identityPath =
      w.files identityPath := World.put_files_of_ne w devices_ne_identity.symm _
  have hjoined : (w.put devicesPath (jsonFile ext.devicesJson devices)).history = w.history := by
    rw [World.put, if_neg devices_ne_identity]
  simp only [World.roll, World.identity?, readText, hid, World.registry_put, hjoined]

/-- **A record is written** for a device that was joined. -/
theorem refines_inserted {nodeId : NodeId} (reads : ReadsSucceed plan)
    (present : w.files identityPath ≠ none) (admitted : nodeId ∈ (w.roll ext).numbers)
    (may : allowed (.write nodeId))
    (changed : RegistryChanged ext plan w (Devices.Inserted nodeId) w₁) : Refines ext allowed w w₁ := by
  intro hw
  obtain ⟨raw, devices, read, ⟨record, rfl⟩, rfl⟩ := changed
  rw [read.registry_eq reads]
  have hroll := roll_putRegistry ext w
    { nodes := (w.registry ext).nodes.insert (nodeKey nodeId) record }
  rw [roster_insert] at hroll
  refine ⟨⟨hw.consistent.put_registry present _, fun key hkey => ?_⟩,
    .inr ⟨.write nodeId, may, hroll ▸ .write record admitted⟩⟩
  rw [World.registry_put, Std.ExtTreeMap.mem_insert] at hkey
  rw [Roll.numbers, hroll]
  rcases hkey with hkey | hkey
  · exact ⟨nodeId, admitted, (Std.LawfulEqCmp.eq_of_compare hkey).symm⟩
  · exact hw.keyed key hkey

/-- **A record is struck off.** -/
theorem refines_erased {nodeId : NodeId} (reads : ReadsSucceed plan)
    (present : w.files identityPath ≠ none) (may : allowed (.strike nodeId))
    (changed : RegistryChanged ext plan w (Devices.Erased nodeId) w₁) : Refines ext allowed w w₁ := by
  intro hw
  obtain ⟨raw, devices, read, rfl, rfl⟩ := changed
  rw [read.registry_eq reads]
  have hroll := roll_putRegistry ext w { nodes := (w.registry ext).nodes.erase (nodeKey nodeId) }
  rw [roster_erase] at hroll
  refine ⟨⟨hw.consistent.put_registry present _, fun key hkey => ?_⟩,
    .inr ⟨.strike nodeId, may, hroll ▸ .strike nodeId⟩⟩
  rw [World.registry_put, Std.ExtTreeMap.mem_erase] at hkey
  rw [Roll.numbers, hroll]
  exact hw.keyed key hkey.2

/-- The identity on disk certifies the persisted fabric. -/
theorem Consistent.certifies (hw : Consistent ext w) (hid : HasIdentity ext w identity) {f : Fabric}
    (hf : Persisted ext w f) : identity.credentials.Certifies ext f.root := by
  have present : w.files identityPath ≠ none := by
    intro h
    rw [← hw.identity?_eq_none, identity?_eq_some.mpr hid] at h
    cases h
  obtain ⟨text, identity', g, hread, hparse, hg, hbel⟩ := hw.identity present
  obtain rfl := hw.persisted_unique hg hf
  have heq := (identity?_eq_some.mpr hid).symm.trans (identity?_eq_some.mpr ⟨text, hread, hparse⟩)
  obtain rfl := Option.some.inj heq
  exact ⟨hbel.key, hbel.fabricId⟩

/-- **A device is admitted**, under the number the counter stands at. -/
theorem refines_enroll {nodeId : NodeId} {f : Fabric} (hid : HasIdentity ext w identity)
    (hnext : nodeId = identity.nextDeviceNodeId) (hf : Persisted ext w f) (may : allowed (.enter nodeId)) :
    Refines ext allowed (w.assign ext nodeId) (w.enroll ext nodeId f) := by
  intro hw
  have present : w.files identityPath ≠ none := by
    intro h
    rw [← (show Consistent ext w from hw.consistent.transfer (.refl _ _) rfl rfl).identity?_eq_none,
      identity?_eq_some.mpr hid] at h
    cases h
  have before : Consistent ext w := hw.consistent.transfer (.refl _ _) rfl rfl
  have next : ((w.assign ext nodeId).roll ext).next = nodeId := by
    rw [hnext]
    exact next_of_hasIdentity (w := w.assign ext _) hid
  have hroll : (w.enroll ext nodeId f).roll ext =
      { (w.assign ext nodeId).roll ext with
        members := (((w.assign ext nodeId).roll ext).next, f.root) ::
          ((w.assign ext nodeId).roll ext).members } := by
    rw [next]
    rfl
  have founded : ((w.assign ext nodeId).roll ext).authority = some identity.credentials :=
    authority_of_hasIdentity hid
  refine ⟨⟨before.enroll present hf nodeId, fun key hkey => ?_⟩,
    .inr ⟨.enter ((w.assign ext nodeId).roll ext).next, next.symm ▸ may, ?_⟩⟩
  · obtain ⟨n, hn, hkey⟩ := hw.keyed key hkey
    exact ⟨n, List.mem_cons_of_mem _ hn, hkey⟩
  · rw [hroll]
    exact .enter founded (before.certifies hid hf)

/-- **The counter moves on**, past a device that was joined and has its record. -/
theorem refines_counted {nodeId : NodeId} (hid : HasIdentity ext w identity)
    (hnext : nodeId = identity.nextDeviceNodeId) (admitted : nodeId ∈ (w.roll ext).numbers)
    (recorded : ((w.roll ext).roster nodeId).isSome)
    (after : Consistent ext (w.put identityPath (jsonFile ext.identityJson identity.counted)))
    (may : allowed (.advance nodeId)) :
    Refines ext allowed w (w.put identityPath (jsonFile ext.identityJson identity.counted)) := by
  intro hw
  have hid' : HasIdentity ext (w.put identityPath (jsonFile ext.identityJson identity.counted))
      identity.counted :=
    ⟨_, readText_jsonFile (World.put_files_self ..), ext.identityJson.decode_encode _⟩
  have hreg : (w.put identityPath (jsonFile ext.identityJson identity.counted)).registry ext =
      w.registry ext := World.registry_put_of_ne w devices_ne_identity _
  have next := next_of_hasIdentity hid
  have hroll : (w.put identityPath (jsonFile ext.identityJson identity.counted)).roll ext =
      { w.roll ext with next := (membership ext).succ (w.roll ext).next } := by
    rw [World.roll, identity?_eq_some.mpr hid', hreg, next, World.roll, identity?_eq_some.mpr hid]
    simp only [World.put, if_true, Option.map_some, Option.getD_some]
    rfl
  obtain rfl : nodeId = (w.roll ext).next := hnext.trans next.symm
  refine ⟨⟨after, ?_⟩, .inr ⟨_, may, hroll ▸ .advance admitted recorded⟩⟩
  rw [hreg, Roll.numbers, hroll]
  exact hw.keyed

/-- Joining and recording a device leave the identity alone. -/
theorem HasIdentity.recorded (h : HasIdentity ext w identity) (nodeId : NodeId) (f : Fabric)
    (bytes : ByteArray) : HasIdentity ext ((w.enroll ext nodeId f).put devicesPath bytes) identity := by
  obtain ⟨text, hread, hparse⟩ := h
  refine ⟨text, ?_, hparse⟩
  rw [← hread, readText, World.put_files_of_ne _ devices_ne_identity.symm]
  rfl

/-- What an operation starts from: it is ready, and it has read the identity on disk. -/
structure Primed (ext : Externals) (ctx : Ctx) (w : World) : Prop where
  sane : Sane ext w
  ready : Ready ext ctx w
  identity : HasIdentity ext w ctx.identity

/-- What a commissioning may do. -/
structure MayCommission (allowed : Act NodeId → Prop) : Prop where
  enter : ∀ n, allowed (.enter n)
  write : ∀ n, allowed (.write n)
  advance : ∀ n, allowed (.advance n)

/-- **The steps of a commissioning** refine those of the machine. -/
theorem Primed.commissionSteps (reads : ReadsSucceed plan) (hw : Primed ext ctx w) (may : MayCommission allowed) :
    CommissionSteps ext plan ctx (Refines ext allowed) w := by
  obtain ⟨g, hg, hpersisted, -⟩ := hw.ready.fabric
  have fabric : ∀ {f}, ctx.fabric? = some f → Persisted ext w f := by
    intro f found
    rw [hg] at found
    exact Option.some.inj found ▸ hpersisted
  have present := hw.ready.present
  have seen : CommissionSeen ext plan ctx w (w.assign ext ctx.identity.nextDeviceNodeId) := .assigned
  exact {
    assign := refines_hidden (hw.ready.commission seen) rfl rfl rfl
    join := fun found => refines_enroll hw.identity rfl (fabric found) (may.enter _)
    record := fun found changed =>
      refines_inserted reads (w := w.enroll ext _ _) present (List.mem_cons_self ..) (may.write _) changed
    count := fun {f w₁} found changed => by
      have after := hw.ready.commission (.counted found changed)
      obtain ⟨raw, devices, read, ⟨record, rfl⟩, rfl⟩ := changed
      refine refines_counted (hw.identity.recorded _ _ _) rfl ?_ ?_ after (may.advance _)
      · rw [roll_putRegistry]
        exact List.mem_cons_self ..
      · rw [roll_putRegistry]
        simp }

/-- The storage has an identity, and these were joined. -/
structure Enrolled (ext : Externals) (targets : List NodeId) (w : World) : Prop where
  sane : Sane ext w
  present : w.files identityPath ≠ none
  targets : ∀ n ∈ targets, n ∈ (w.roll ext).numbers

theorem stable_enrolled (targets : List NodeId) : Stable (Enrolled ext targets) := fun _ _ h hw =>
  ⟨stable_sane h hw.sane, by rw [h.at_ isState_identity]; exact hw.present, by
    rw [h.roll]; exact hw.targets⟩

/-- A change to the registry leaves the joined devices alone. -/
theorem Enrolled.changed {change : Devices → Devices → Prop} {targets : List NodeId}
    (hw : Enrolled ext targets w) (step : Refines ext allowed w w₁)
    (changed : RegistryChanged ext plan w change w₁) : Refines ext allowed w w₁ ∧ Enrolled ext targets w₁ := by
  refine ⟨step, (step hw.sane).1, ?_, ?_⟩
  all_goals obtain ⟨raw, devices, -, -, rfl⟩ := changed
  · rw [World.put_files_of_ne _ devices_ne_identity.symm]
    exact hw.present
  · rw [roll_putRegistry]
    exact hw.targets

theorem enrolled_inserted (reads : ReadsSucceed plan) {targets : List NodeId}
    (may : ∀ n, allowed (.write n)) :
    StepsOnChange ext plan (Refines ext allowed) (Enrolled ext targets) targets Devices.Inserted :=
  fun n hn _ _ hw changed =>
    hw.changed (refines_inserted reads hw.present (hw.targets n hn) (may n) changed) changed

theorem enrolled_erased (reads : ReadsSucceed plan) {targets : List NodeId}
    (may : ∀ n ∈ targets, allowed (.strike n)) :
    StepsOnChange ext plan (Refines ext allowed) (Enrolled ext []) targets Devices.Erased :=
  fun n hn _ _ hw changed => hw.changed (refines_erased reads hw.present (may n hn) changed) changed

end Facts

end MatterTimeCtl
