/-
# MatterTimeCtl.Storage.Refusal — when `ensureFabric` discards, mints and refuses without knowing.

Two reads decide what `ensureFabric` does, and neither tells a missing file from one that cannot be read:
an unreadable identity.json counts as one that an interrupted first run never wrote, and an unreadable or
unparseable devices.json counts as an empty registry.  A storage state here is the files together with
those that cannot be read; for each of them this module says exactly whether the fabric can be discarded
although an identity exists, and whether an identity can be minted although devices may be registered.
-/
import MatterTimeCtl.Scenario.Storage
import MatterTimeCtl.Effect.Reach

namespace MatterTimeCtl

open Files Effect

/-! ## Files that cannot be read -/

/-- Reads fail exactly for the unreadable files. -/
def storagePlan (unreadable : Path → Bool) : (c : Call) → c.Move → Prop
  | .file (.readToString p), m => m.choice = if unreadable p then .fail 0 else .succeed
  | _, _ => True

/-- What a read returns in this storage state. -/
def readUnder (unreadable : Path → Bool) (files : FileMap Path) (p : Path) : Except IoError String :=
  if unreadable p then .error .other else readText files p

/-- Reading identity.json returns an error. -/
def CannotReadIdentity (unreadable : Path → Bool) (w : World) : Prop :=
  ∃ cause, readUnder unreadable w.files identityPath = .error cause

/-- The registry as `loadOrDefault` loads it. -/
def registryUnder (ext : Externals) (unreadable : Path → Bool) (w : World) : Devices :=
  registryOf ext (readUnder unreadable w.files devicesPath)

/-- devices.json is absent, or parses to a registry with no records. -/
def ProvablyEmpty (ext : Externals) (unreadable : Path → Bool) (w : World) : Prop :=
  w.files devicesPath = none ∨ ∃ text devices, readUnder unreadable w.files devicesPath = .ok text ∧
    ext.devicesJson.decode text = .ok devices ∧ devices.nodes.isEmpty = true

/-- devices.json is there, but cannot be read or parsed. -/
def Damaged (ext : Externals) (unreadable : Path → Bool) (w : World) : Prop :=
  w.files devicesPath ≠ none ∧ ∀ text devices, readUnder unreadable w.files devicesPath = .ok text →
    ext.devicesJson.decode text ≠ .ok devices

section Reads

variable {ext : Externals} {unreadable : Path → Bool} {w w' : World} {raw : Except IoError String}

theorem answer_read (p : Path) (files : FileMap Path) :
    (FileCall.readToString p).answer files (if unreadable p then Io.fail 0 else .succeed) =
      readUnder unreadable files p := by
  unfold readUnder
  split <;> rfl

theorem reads_storagePlan {p : Path} :
    Reads (storagePlan unreadable) w.files p raw ↔ raw = readUnder unreadable w.files p := by
  constructor
  · rintro ⟨⟨later, io⟩, hm, rfl⟩
    obtain rfl : io = if unreadable p then Io.fail 0 else .succeed := hm
    exact answer_read p w.files
  · rintro rfl
    exact ⟨⟨w.clock, if unreadable p then Io.fail 0 else .succeed⟩, rfl, (answer_read p w.files).symm⟩

theorem readsEmptyRegistry_storagePlan :
    ReadsEmptyRegistry ext (storagePlan unreadable) w ↔
      (registryUnder ext unreadable w).nodes.isEmpty = true := by
  simp only [ReadsEmptyRegistry, reads_storagePlan, exists_eq_left, registryUnder]

theorem registryUnder_unread (unread : unreadable devicesPath = true) : registryUnder ext unreadable w = {} := by
  rw [registryUnder, readUnder, if_pos unread]
  rfl

theorem readUnder_same {p : Path} (hp : IsState p) (h : w.Same w') :
    readUnder unreadable w'.files p = readUnder unreadable w.files p := by
  simp only [readUnder, readText, h.at_ hp]

theorem ProvablyEmpty.same (h : w.Same w') (hw : ProvablyEmpty ext unreadable w) :
    ProvablyEmpty ext unreadable w' := by
  rwa [ProvablyEmpty, h.at_ isState_devices, readUnder_same isState_devices h]

/-- What loads as empty is empty, or damaged. -/
theorem provablyEmpty_or_damaged (h : (registryUnder ext unreadable w).nodes.isEmpty = true) :
    ProvablyEmpty ext unreadable w ∨ Damaged ext unreadable w := by
  by_cases hfile : w.files devicesPath = none
  · exact .inl (.inl hfile)
  cases hread : readUnder unreadable w.files devicesPath with
  | error cause => exact .inr ⟨hfile, fun text devices htext => by rw [hread] at htext; cases htext⟩
  | ok text =>
      cases hparse : ext.devicesJson.decode text with
      | error cause =>
          refine .inr ⟨hfile, fun text' devices htext hdecode => ?_⟩
          rw [hread] at htext
          obtain rfl := Except.ok.inj htext
          rw [hparse] at hdecode
          cases hdecode
      | ok devices =>
          refine .inl (.inr ⟨text, devices, hread, hparse, ?_⟩)
          rwa [registryUnder, hread, registryOf, hparse] at h

/-- What is damaged loads as empty, and is not provably empty. -/
theorem Damaged.loads_empty (h : Damaged ext unreadable w) :
    (registryUnder ext unreadable w).nodes.isEmpty = true := by
  unfold registryUnder registryOf
  split
  · rename_i text hread
    split
    · rename_i devices hparse
      exact absurd hparse (h.2 text devices hread)
    · exact Std.ExtTreeMap.isEmpty_empty
  · exact Std.ExtTreeMap.isEmpty_empty

theorem Damaged.not_provablyEmpty (h : Damaged ext unreadable w) : ¬ ProvablyEmpty ext unreadable w := by
  rintro (hnone | ⟨text, devices, hread, hparse, -⟩)
  · exact h.1 hnone
  · exact h.2 text devices hread hparse

end Reads

/-! ## Calls that discard and calls that mint -/

/-- Calls that neither remove a file nor compute keys. -/
def Plain : Call → Prop
  | .file (.removeFile _) | .crypto _ => False
  | _ => True

/-- Calls that compute keys. -/
def Mints : Call → Prop
  | .crypto _ | .fillBytes _ => True
  | _ => False

theorem mayReplace_plain (d : Dir) (tmp path : Path) : MayReplace Plain d tmp path :=
  ⟨trivial, trivial, fun _ => trivial, trivial, trivial⟩

theorem plain_persistFabric (ext : Externals) (fabrics : List Fabric) (fabIdx : FabIdx) :
    (persistFabric ext fabrics fabIdx).run.Uses Plain :=
  uses_persistFabric ext (fun _ => mayReplace_plain _ _ _) fabrics fabIdx

theorem plain_reconcileLabel (ext : Externals) (fabrics : List Fabric) (fabIdx : FabIdx)
    (label : String) : (reconcileLabel ext fabrics fabIdx label).run.Uses Plain :=
  uses_reconcileLabel ext (fun _ => mayReplace_plain _ _ _) fabrics fabIdx label

theorem mints_mintFabric (fabrics : List Fabric) : (mintFabric fabrics).run.Uses Mints :=
  uses_mintFabric (fun _ => trivial) (fun _ => trivial) fabrics

section Guards

variable {ext : Externals} {plan : (c : Call) → c.Move → Prop} {config : Config}
  {fabrics : List Fabric} {w : World}

/-- When `ensureFabric` removes a blob, and when it computes keys. -/
def EnsureCall (ext : Externals) (plan : (c : Call) → c.Move → Prop) (fabrics : List Fabric)
    (w : World) : Call → World → Prop
  | .file (.removeFile _), w' => fabrics ≠ [] ∧
    (∃ cause, Reads plan w.files identityPath (.error cause)) ∧ ReadsEmptyRegistry ext plan w ∧
    w.Same w'
  | .crypto _, w' => ∃ rest w₀, Bootstraps ext plan fabrics w rest w₀ ∧ w₀.Same w'
  | _, _ => True

theorem ensureCall_of_plain {c : Call} {w' : World} (h : Plain c) :
    EnsureCall ext plan fabrics w c w' := by
  unfold EnsureCall
  split <;> first | exact h.elim | trivial

theorem guarded_plain {α : Type} {p : Prog α} (hp : p.Uses Plain) (w' : World) :
    Guarded (planned ext plan) (EnsureCall ext plan fabrics w) p w' :=
  .of_uses hp fun _ _ => ensureCall_of_plain

theorem refuseOrBootstrap_guarded {rest : List Fabric} {w₀ w₁ : World}
    (cleared : Cleared ext plan fabrics w rest w₀) (same : w₀.Same w₁)
    {raw : Except IoError String} (read : Reads plan w.files devicesPath raw) :
    Guarded (planned ext plan) (EnsureCall ext plan fabrics w)
      (refuseOrBootstrap ext config rest (registryOf ext raw)).run w₁ := by
  unfold refuseOrBootstrap
  refine (guarded_plain (uses_ask (c := .file (.pathExists identityPath)) trivial) w₁).run_bind
    (pathExists_spec w₁) fun found w₂ h answer => ?_
  replace same := same.trans h
  have hexists : (w₁.files identityPath).isSome = found := (Except.ok.inj answer).symm
  cases found with
  | true => exact guarded_done _
  | false =>
      cases hreg : (registryOf ext raw).nodes.isEmpty with
      | false =>
          simp only [Bool.false_eq_true, if_false, Bool.not_false, if_true]
          exact guarded_done _
      | true =>
          simp only [Bool.false_eq_true, if_false, Bool.not_true]
          have absent : w₀.files identityPath = none := by
            rw [← same.at_ isState_identity, h.at_ isState_identity]
            simpa using hexists
          -- both checks passed, so this is a bootstrap; minting is all it asks of the crypto backend
          have boot : Bootstraps ext plan fabrics w rest w₀ := ⟨cleared, absent, raw, read, hreg⟩
          unfold bootstrapFabric
          refine Guarded.run_bind (.of_safe (mintFabric_spec rest w₂) (mints_mintFabric rest) ?_)
            (mintFabric_spec rest w₂) fun (identity, fabIdx, seed) w₃ _ _ => guarded_plain ?_ w₃
          · intro c w' hc h'
            unfold Mints at hc
            split at hc
            · exact ⟨rest, w₀, boot, same.trans h'⟩
            · trivial
            · exact hc.elim
          · refine uses_run_bind (plain_persistFabric ext _ _) fun _ => ?_
            refine uses_run_bind (uses_attempt (uses_store _ (mayReplace_plain _ _ _) _)) fun r => ?_
            cases r with
            | ok _ => exact uses_run_pure _
            | error _ => exact uses_run_throw _

/-- **Every removal and every key computation of `ensureFabric`**, with what it had read by then. -/
theorem ensureFabric_guarded (w : World) :
    Guarded (planned ext plan) (EnsureCall ext plan fabrics w)
      (ensureFabric ext config fabrics).run w := by
  have load : (loadOrDefault ext devicesPath).run.Uses Plain :=
    uses_run_bind (uses_ask (c := .file (.readToString devicesPath)) trivial) fun _ => uses_run_pure _
  unfold ensureFabric
  refine (guarded_plain load w).run_bind (loadOrDefault_spec w) fun registry w₁ h₁ read => ?_
  obtain ⟨raw, hr, read⟩ := read
  obtain rfl := Except.ok.inj hr
  cases fabrics with
  | nil => exact refuseOrBootstrap_guarded (.fresh rfl) h₁ read
  | cons f rest =>
      simp only [List.map_cons, List.head?_cons]
      refine (guarded_plain (uses_ask (c := .file (.readToString identityPath)) trivial) w₁).run_bind
        (read_spec w₁) fun answer w₂ h₂ hread => ?_
      obtain ⟨answer, ha, hread⟩ := hread
      obtain rfl := Except.ok.inj ha
      rw [Reads.same isState_identity h₁] at hread
      replace h₂ := h₁.trans h₂
      cases answer with
      | ok text =>
          dsimp only
          cases ext.identityJson.decode text with
          | error cause => exact guarded_done _
          | ok identity =>
              exact guarded_plain (uses_run_bind (plain_reconcileLabel ext _ _ _)
                fun _ => uses_run_pure _) w₂
      | error cause =>
          dsimp only
          split
          · rename_i hempty
            have empty : ReadsEmptyRegistry ext plan w := ⟨raw, read, hempty⟩
            refine (guarded_plain (uses_ask (c := .log _ _) trivial) w₂).run_bind (logWarn_spec _ w₂)
              fun _ w₃ h₃ _ => ?_
            replace h₂ := h₂.trans h₃
            refine Guarded.run_bind ?_ (removePersistedFabric_atomic f.fabIdx w₃) fun _ w₄ _ h => ?_
            -- the only removal of all: its guard is what has been read up to here
            · have removal : Guarded (planned ext plan) (EnsureCall ext plan (f :: rest) w)
                  (ask (.file (.removeFile (fabricPath ext f.fabIdx)))).run w₃ :=
                guarded_call ⟨by simp, ⟨cause, hread⟩, empty, h₂⟩ fun _ _ => guarded_done _
              refine (removal.run_then fun r w' => ?_).run_then fun r w' =>
                guarded_plain (uses_orFail _ _) w'
              split <;> exact guarded_done _
            · exact refuseOrBootstrap_guarded (.discarded rfl hread empty)
                ((h₂.remove ext (isState_key _)).trans h) read
          · exact guarded_done _

/-! ## Runs that discard and mint -/

variable {unreadable : Path → Bool}

/-- The plan lets reads come out as in the storage state, and existence checks be answered. -/
structure AllowsReads (plan : (c : Call) → c.Move → Prop) (unreadable : Path → Bool) : Prop where
  read : ∀ p later, plan (.file (.readToString p)) ⟨later, if unreadable p then .fail 0 else .succeed⟩
  look : ∀ p later, plan (.file (.pathExists p)) ⟨later, Io.succeed⟩

theorem allowsReads_storagePlan : AllowsReads (storagePlan unreadable) unreadable :=
  ⟨fun _ _ => rfl, fun _ _ => trivial⟩

theorem can_read (allows : AllowsReads plan unreadable) (p : Path) (w : World) :
    Can (planned ext plan) (ask (.file (.readToString p))).run
      (fun r w' => ∃ raw, r = .ok raw ∧ raw = readUnder unreadable w.files p ∧ w.Same w') w := by
  refine .ask ⟨w.clock, if unreadable p then .fail 0 else .succeed⟩
    ⟨⟨le_rfl, trivial⟩, allows.read p _⟩ ?_
  exact ⟨_, rfl, answer_read p w.files, quiet_next (by trivial) w _⟩

theorem can_load (allows : AllowsReads plan unreadable) (w : World) :
    Can (planned ext plan) (loadOrDefault ext devicesPath).run
      (fun r w' => ∃ registry, r = .ok registry ∧ registry = registryUnder ext unreadable w ∧
        w.Same w') w := by
  refine Can.run_bind ((can_read allows devicesPath w).mono ?_)
  rintro r w' ⟨raw, rfl, rfl, h⟩
  exact ⟨_, rfl, can_done.mpr ⟨_, rfl, rfl, h⟩⟩

theorem can_pathExists (allows : AllowsReads plan unreadable) (p : Path) (w : World) :
    Can (planned ext plan) (ask (.file (.pathExists p))).run
      (fun r w' => ∃ found, r = .ok found ∧ found = (w.files p).isSome ∧ w.Same w') w :=
  .ask ⟨w.clock, .succeed⟩ ⟨⟨le_rfl, trivial⟩, allows.look p _⟩
    ⟨_, rfl, rfl, quiet_next (by trivial) w _⟩

theorem can_log (level : LogLevel) (message : String) (w : World) :
    Can (planned ext (storagePlan unreadable)) (ask (.log level message)).run
      (fun r w' => ∃ a, r = .ok a ∧ w.Same w') w :=
  .ask ⟨w.clock, ()⟩ ⟨⟨le_rfl, trivial⟩, trivial⟩ ⟨_, rfl, quiet_next (by trivial) w _⟩

theorem can_removePersistedFabric (fabIdx : FabIdx) (w : World) :
    Can (planned ext (storagePlan unreadable)) (removePersistedFabric ext fabIdx).run
      (fun r w' => ∃ a, r = .ok a ∧ (w.remove ext (fabricPath ext fabIdx)).Same w') w := by
  refine Can.run_bind (Can.run_bind (.ask ⟨w.clock, .succeed⟩ ⟨⟨le_rfl, trivial⟩, trivial⟩ ?_))
  refine ⟨_, rfl, ?_⟩
  have removed : (w.remove ext (fabricPath ext fabIdx)).Same
      ((planned ext (storagePlan unreadable)).next
        (.file (.removeFile (keyPath (ext.fabricKey fabIdx)))) w ⟨w.clock, Io.succeed⟩) :=
    ⟨.refl _ _, rfl⟩
  have answered : (planned ext (storagePlan unreadable)).answer
      (.file (.removeFile (keyPath (ext.fabricKey fabIdx)))) w ⟨w.clock, Io.succeed⟩ =
      onExisting w.files (keyPath (ext.fabricKey fabIdx)) := rfl
  rw [answered]
  -- a key that is not there counts as removed
  cases hfile : w.files (keyPath (ext.fabricKey fabIdx)) with
  | none =>
      simp only [onExisting, hfile]
      exact can_done.mpr ⟨_, rfl, can_done.mpr ⟨_, rfl, removed⟩⟩
  | some _ =>
      simp only [onExisting, hfile]
      exact can_done.mpr ⟨_, rfl, can_done.mpr ⟨_, rfl, removed⟩⟩

/-- The way to the removal: a fabric is loaded, identity.json cannot be read, and the registry loads as
empty. -/
theorem comes_to_removal (config : Config) {f : Fabric} {rest : List Fabric}
    (unread : CannotReadIdentity unreadable w)
    (empty : (registryUnder ext unreadable w).nodes.isEmpty = true) :
    Comes (planned ext (storagePlan unreadable)) (ensureFabric ext config (f :: rest)).run w (do
      removePersistedFabric ext f.fabIdx
      refuseOrBootstrap ext config ((f :: rest).filter (·.fabIdx ≠ f.fabIdx))
        (registryUnder ext unreadable w)).run w.Same := by
  obtain ⟨cause, hcause⟩ := unread
  unfold ensureFabric
  refine Can.run_comes ((can_load allowsReads_storagePlan w).mono ?_)
  rintro _ w₁ ⟨registry, rfl, rfl, h₁⟩
  refine ⟨_, rfl, ?_⟩
  simp only [List.map_cons, List.head?_cons]
  refine Can.run_comes ((can_read allowsReads_storagePlan identityPath w₁).mono ?_)
  rintro _ w₂ ⟨answer, rfl, rfl, h₂⟩
  refine ⟨_, rfl, ?_⟩
  simp only [readUnder_same isState_identity h₁, hcause, empty, if_true]
  refine Can.run_comes ((can_log _ _ w₂).mono ?_)
  rintro _ w₃ ⟨_, rfl, h₃⟩
  exact ⟨_, rfl, .here _ (h₁.trans (h₂.trans h₃))⟩

/-- With an identity.json left, what follows the removal is the refusal. -/
theorem can_removeAndRefuse {f : Fabric} {rest : List Fabric} {registry : Devices}
    (present : w.files identityPath ≠ none) :
    Can (planned ext (storagePlan unreadable)) (do
      removePersistedFabric ext f.fabIdx
      refuseOrBootstrap ext config rest registry : Action _).run
      (fun r w' => r = .error (.refused .identityWithoutFabric) ∧
        w'.files (fabricPath ext f.fabIdx) = none) w := by
  refine Can.run_bind ((can_removePersistedFabric f.fabIdx w).mono ?_)
  rintro _ w₁ ⟨_, rfl, h₁⟩
  refine ⟨_, rfl, ?_⟩
  unfold refuseOrBootstrap
  refine Can.run_bind ((can_pathExists allowsReads_storagePlan identityPath w₁).mono ?_)
  rintro _ w₂ ⟨found, rfl, hfound, h₂⟩
  obtain rfl : found = true := by
    rw [hfound, h₁.at_ isState_identity, World.remove_files_of_ne ext w (identity_ne_fabric _)]
    exact Option.isSome_iff_ne_none.mpr present
  refine ⟨_, rfl, can_done.mpr ⟨rfl, ?_⟩⟩
  rw [(h₁.trans h₂).at_ (isState_fabric _)]
  exact World.remove_files_self ..

/-! ## Refusals -/

/-- A fabric is loaded, there is an identity.json that cannot be read, and the registry loads as
empty. -/
structure DiscardsBlindly (ext : Externals) (unreadable : Path → Bool) (fabrics : List Fabric)
    (w : World) : Prop where
  loaded : fabrics ≠ []
  present : w.files identityPath ≠ none
  unread : CannotReadIdentity unreadable w
  empty : (registryUnder ext unreadable w).nodes.isEmpty = true

/-- **A refusal touches nothing, except after a discard in the dark.**  In every storage state, every
refusal leaves the blobs, identity.json and devices.json as they were if and only if the state is not one
where a fabric is loaded, identity.json exists and cannot be read, and the registry loads as empty; and
the same condition says exactly when no blob is removed while an identity.json exists. -/
theorem refusal_touches_nothing_iff (ext : Externals) (config : Config) {fabrics : List Fabric}
    {w : World} (unreadable : Path → Bool)
    (hload : ext.loadFabrics (blobsOf w.files) = .ok fabrics) :
    ((∀ tr why w', Exec (planned ext (storagePlan unreadable)) (ensureFabric ext config fabrics).run
        w tr (.done (.error (.refused why))) w' → AgreeOn IsState w.files w'.files) ↔
      ¬ DiscardsBlindly ext unreadable fabrics w) ∧
    ((∀ p w', Pending (planned ext (storagePlan unreadable)) (ensureFabric ext config fabrics).run
        w (.file (.removeFile p)) w' → w'.files identityPath = none) ↔
      ¬ DiscardsBlindly ext unreadable fabrics w) := by
  have blind : ∀ {cause}, fabrics ≠ [] → w.files identityPath ≠ none →
      Reads (storagePlan unreadable) w.files identityPath (.error cause) →
      ReadsEmptyRegistry ext (storagePlan unreadable) w → DiscardsBlindly ext unreadable fabrics w :=
    fun loaded present unread empty => ⟨loaded, present, ⟨_, (reads_storagePlan.mp unread).symm⟩,
      readsEmptyRegistry_storagePlan.mp empty⟩
  refine ⟨⟨fun kept h => ?_, fun h tr why w' hx => ?_⟩, ⟨fun kept h => ?_, fun h p w' hp => ?_⟩⟩
  · -- the run that discards and then refuses
    obtain ⟨f, rest, rfl⟩ := List.exists_cons_of_ne_nil h.loaded
    obtain ⟨bytes, hblob, -⟩ := loaded_blob hload
    obtain ⟨tr₁, w₁, hx₁, h₁⟩ := comes_to_removal config (f := f) h.unread h.empty
    have present : w₁.files identityPath ≠ none := by
      rw [h₁.at_ isState_identity]
      exact h.present
    obtain ⟨tr₂, r, w₂, hx₂, rfl, gone⟩ := (can_removeAndRefuse present).exec
    have hsame := kept _ _ _ (hx₁.trans hx₂) (fabricPath ext f.fabIdx) (isState_fabric _)
    rw [gone, hblob] at hsame
    cases hsame
  · obtain ⟨w₁, failed, hs⟩ := (ensureFabric_spec hload).result hx
    cases failed with
    | fault _ _ plain => exact absurd rfl (plain why)
    | unparsed _ _ _ plain => exact absurd rfl (plain why)
    | unlabelled _ _ plain => exact absurd rfl (plain why)
    | unreadable _ _ _ _ => exact hs.files
    | registered _ _ _ _ => exact hs.files
    | remains cleared present =>
        cases cleared with
        | fresh _ => exact hs.files
        | @discarded f cause loaded unread empty =>
            rw [World.remove_files_of_ne ext w (identity_ne_fabric _)] at present
            refine absurd (blind ?_ (Option.isSome_iff_ne_none.mp present) unread empty) h
            rintro rfl
            cases loaded
  · obtain ⟨f, rest, rfl⟩ := List.exists_cons_of_ne_nil h.loaded
    obtain ⟨w', pending, hs⟩ := (comes_to_removal config h.unread h.empty).pending
    have absent := kept _ _ pending
    rw [hs.at_ isState_identity] at absent
    exact h.present absent
  · obtain ⟨loaded, ⟨cause, unread⟩, empty, hs⟩ := ensureFabric_guarded w _ _ hp
    rw [hs.at_ isState_identity]
    by_contra present
    exact h (blind loaded present unread empty)

/-- The refusal where devices are registered. -/
theorem can_refuse_unread {f : Fabric} {rest : List Fabric} {cause : IoError}
    (unread : readUnder unreadable w.files identityPath = .error cause)
    (registered : (registryUnder ext unreadable w).nodes.isEmpty = false) :
    Can (planned ext (storagePlan unreadable)) (ensureFabric ext config (f :: rest)).run
      (fun r _ => ∃ why, r = .error (.refused why)) w := by
  unfold ensureFabric
  refine Can.run_bind ((can_load allowsReads_storagePlan w).mono ?_)
  rintro _ w₁ ⟨registry, rfl, rfl, h₁⟩
  refine ⟨_, rfl, ?_⟩
  simp only [List.map_cons, List.head?_cons]
  refine Can.run_bind ((can_read allowsReads_storagePlan identityPath w₁).mono ?_)
  rintro _ w₂ ⟨answer, rfl, rfl, h₂⟩
  refine ⟨_, rfl, ?_⟩
  simp only [readUnder_same isState_identity h₁, unread, registered, Bool.false_eq_true, if_false]
  exact can_done.mpr ⟨_, rfl⟩

open Scenario in
/-- A host with a device, whose identity.json cannot be read. -/
theorem registered_refusal_touches_nothing : ∃ w tr why w',
    Exec (planned reference (storagePlan fun p => decide (p = identityPath)))
      (ensureFabric reference Scenario.config [fabric]).run w tr (.done (.error (.refused why))) w' ∧
    w.files (fabricPath reference fabric.fabIdx) ≠ none ∧ w.files identityPath ≠ none ∧
    AgreeOn IsState w.files w'.files ∧
    ∀ p w', Pending (planned reference (storagePlan fun p => decide (p = identityPath)))
      (ensureFabric reference Scenario.config [fabric]).run w (.file (.removeFile p)) w' →
        w'.files identityPath = none := by
  let devices : Devices := { nodes := (∅ : Std.ExtTreeMap String DeviceRecord compare).insert (nodeKey 1) {} }
  let w := oneController.put devicesPath (jsonFile reference.devicesJson devices)
  have established : Established w first := established_oneController.put_devices _
  have unread : readUnder (fun p => decide (p = identityPath)) w.files identityPath = .error .other :=
    if_pos (decide_eq_true rfl)
  have registered :
      (registryUnder reference (fun p => decide (p = identityPath)) w).nodes.isEmpty = false := by
    have hread : readText w.files devicesPath = .ok _ := readText_jsonFile (World.put_files_self _ _ _)
    rw [registryUnder, readUnder, if_neg (by simp [devices_ne_identity]), hread, registryOf]
    rw [reference.devicesJson.decode_encode]
    simp [devices]
  have sighted : ¬ DiscardsBlindly reference (fun p => decide (p = identityPath)) [fabric] w := fun h =>
    absurd (h.empty.symm.trans registered) (by decide)
  obtain ⟨tr, r, w', run, why, rfl⟩ := (can_refuse_unread unread registered).exec
  have both := refusal_touches_nothing_iff reference Scenario.config (fun p => decide (p = identityPath))
    established.loads
  exact ⟨w, tr, why, w', run, by simp [established.blob], by simp [established.identity],
    both.1.mpr sighted _ _ _ run, both.2.mpr sighted⟩

/-- **A refusal destroys a fabric.**  The identity is there but cannot be read, and no device is registered
yet: the blob is removed, and then the run refuses. -/
theorem unreadable_identity_discarded :
    reference.loadFabrics (blobsOf Scenario.oneController.files) = .ok [Scenario.fabric] ∧
    Scenario.oneController.files identityPath ≠ none ∧
    Scenario.oneController.files (fabricPath reference Scenario.fabric.fabIdx) ≠ none ∧
    ∃ tr w', Exec (planned reference (storagePlan fun p => decide (p = identityPath)))
      (ensureFabric reference Scenario.config [Scenario.fabric]).run Scenario.oneController tr
      (.done (.error (.refused .identityWithoutFabric))) w' ∧
      w'.files (fabricPath reference Scenario.fabric.fabIdx) = none := by
  have established := Scenario.established_oneController
  have present : Scenario.oneController.files identityPath ≠ none := by simp [established.identity]
  refine ⟨established.loads, present, by simp [established.blob], ?_⟩
  have removes : Comes (planned reference (storagePlan fun p => decide (p = identityPath)))
      (ensureFabric reference Scenario.config [Scenario.fabric]).run Scenario.oneController _ _ :=
    comes_to_removal Scenario.config ⟨.other, by simp [readUnder]⟩ (by
      have hdev : Scenario.oneController.files devicesPath = none := rfl
      simp [registryUnder, readUnder, devices_ne_identity, readText_none hdev, registryOf])
  obtain ⟨tr₁, w₁, hx₁, h₁⟩ := removes
  have present₁ : w₁.files identityPath ≠ none := by
    rw [h₁.at_ isState_identity]
    exact present
  obtain ⟨tr₂, r, w₂, hx₂, rfl, gone⟩ := (can_removeAndRefuse present₁).exec
  exact ⟨_, w₂, hx₁.trans hx₂, gone⟩

/-! ## Minting -/

/-- devices.json is damaged, and nothing else keeps `ensureFabric` from discarding or minting: a fabric
is loaded and identity.json cannot be read, or no fabric is loaded and there is no identity.json. -/
def TrustsDamaged (ext : Externals) (unreadable : Path → Bool) (fabrics : List Fabric) (w : World) :
    Prop :=
  Damaged ext unreadable w ∧ ((fabrics ≠ [] ∧ CannotReadIdentity unreadable w) ∨
    (fabrics = [] ∧ w.files identityPath = none))

/-- The way to the first call of the bootstrap. -/
theorem comes_to_bootstrap (config : Config) (absent : w.files identityPath = none)
    (empty : (registryUnder ext unreadable w).nodes.isEmpty = true) :
    Comes (planned ext (storagePlan unreadable)) (ensureFabric ext config []).run w
      (bootstrapFabric ext config []).run w.Same := by
  unfold ensureFabric
  refine Can.run_comes ((can_load allowsReads_storagePlan w).mono ?_)
  rintro _ w₁ ⟨registry, rfl, rfl, h₁⟩
  refine ⟨_, rfl, ?_⟩
  simp only [List.map_nil, List.head?_nil]
  unfold refuseOrBootstrap
  refine Can.run_comes ((can_pathExists allowsReads_storagePlan identityPath w₁).mono ?_)
  rintro _ w₂ ⟨found, rfl, hfound, h₂⟩
  obtain rfl : found = false := by
    rw [hfound, h₁.at_ isState_identity, absent, Option.isSome_none]
  refine ⟨_, rfl, ?_⟩
  simp only [Bool.false_eq_true, if_false, empty, Bool.not_true]
  exact .here _ (h₁.trans h₂)

theorem ProvablyEmpty.of_file {w' : World} (h : w'.files devicesPath = w.files devicesPath)
    (hw : ProvablyEmpty ext unreadable w) : ProvablyEmpty ext unreadable w' := by
  simpa only [ProvablyEmpty, readUnder, readText, h] using hw

/-- **An identity is minted, and a fabric discarded, only over provably empty storage, unless a damaged
registry is trusted.**  In every storage state, `ensureFabric` computes keys only where there is no
identity.json and devices.json is absent or parses to no records, and removes a blob only where devices.json
does, if and only if the state is not one where a damaged devices.json is all that stands in the way. -/
theorem mints_over_empty_iff (ext : Externals) (config : Config) {fabrics : List Fabric} {w : World}
    (unreadable : Path → Bool) (hload : ext.loadFabrics (blobsOf w.files) = .ok fabrics) :
    ((∀ c w', Pending (planned ext (storagePlan unreadable)) (ensureFabric ext config fabrics).run
        w (.crypto c) w' → w'.files identityPath = none ∧ ProvablyEmpty ext unreadable w') ∧
      (∀ p w', Pending (planned ext (storagePlan unreadable)) (ensureFabric ext config fabrics).run
        w (.file (.removeFile p)) w' → ProvablyEmpty ext unreadable w')) ↔
      ¬ TrustsDamaged ext unreadable fabrics w := by
  constructor
  -- a damaged registry: the run that comes to the removal or to the minting
  · rintro ⟨minting, removing⟩ ⟨damaged, ⟨loaded, unread⟩ | ⟨rfl, absent⟩⟩
    · obtain ⟨f, rest, rfl⟩ := List.exists_cons_of_ne_nil loaded
      obtain ⟨w', pending, hs⟩ :=
        (comes_to_removal config unread damaged.loads_empty).pending
      exact damaged.not_provablyEmpty ((removing _ _ pending).same hs.symm)
    · obtain ⟨w', pending, hs⟩ :=
        (comes_to_bootstrap config absent damaged.loads_empty).pending
      exact damaged.not_provablyEmpty ((minting _ _ pending).2.same hs.symm)
  -- conversely, the guards say that the registry was read as empty: it is, or it is damaged
  · intro h
    refine ⟨fun c w' hp => ?_, fun p w' hp => ?_⟩
    · obtain ⟨rest, w₀, boot, hs⟩ := ensureFabric_guarded w _ _ hp
      have empty := readsEmptyRegistry_storagePlan.mp boot.empty
      refine ⟨by rw [hs.at_ isState_identity]; exact boot.absent, .same hs ?_⟩
      rcases provablyEmpty_or_damaged empty with proved | damaged
      · cases boot.cleared with
        | fresh _ => exact proved
        | discarded _ _ _ => exact proved.of_file (World.remove_files_of_ne ext w (devices_ne_fabric _))
      · refine absurd ⟨damaged, ?_⟩ h
        cases boot.cleared with
        | fresh nothing => exact .inr ⟨nothing, boot.absent⟩
        | discarded loaded unread _ =>
            refine .inl ⟨?_, _, (reads_storagePlan.mp unread).symm⟩
            rintro rfl
            cases loaded
    · obtain ⟨loaded, ⟨cause, unread⟩, empty, hs⟩ := ensureFabric_guarded w _ _ hp
      refine .same hs ?_
      rcases provablyEmpty_or_damaged (readsEmptyRegistry_storagePlan.mp empty) with proved | damaged
      · exact proved
      · exact absurd ⟨damaged, .inl ⟨loaded, cause, (reads_storagePlan.mp unread).symm⟩⟩ h

end Guards

theorem fresh_mints_over_empty :
    (∀ c w', Pending (planned reference (storagePlan fun _ => false))
      (ensureFabric reference Scenario.config []).run Scenario.freshHost (.crypto c) w' →
      w'.files identityPath = none ∧ ProvablyEmpty reference (fun _ => false) w') ∧
    (∀ p w', Pending (planned reference (storagePlan fun _ => false))
      (ensureFabric reference Scenario.config []).run Scenario.freshHost (.file (.removeFile p)) w' →
      ProvablyEmpty reference (fun _ => false) w') :=
  (mints_over_empty_iff reference Scenario.config (fun _ => false)
    (Scenario.loads_nothing fun _ => rfl)).mpr fun h => h.1.1 rfl

/-- A host where devices.json has been cut off after its first byte. -/
def truncatedRegistry : World := Scenario.freshHost.put devicesPath "\x7b".toUTF8

theorem damaged_truncatedRegistry : Damaged reference (fun _ => false) truncatedRegistry := by
  have hfile : truncatedRegistry.files devicesPath = some "\x7b".toUTF8 := World.put_files_self _ _ _
  refine ⟨by simp [hfile], fun text devices hread hdecode => ?_⟩
  have htext : readUnder (fun _ => false) truncatedRegistry.files devicesPath = .ok "\x7b" :=
    readText_ok hfile
  rw [htext] at hread
  cases hread
  have hparse : reference.devicesJson.decode "\x7b" = .error "unexpected input" := rfl
  rw [hparse] at hdecode
  cases hdecode

/-- **An identity is minted over a damaged registry.**  A devices.json that cannot be parsed counts as an
empty one. -/
theorem damaged_registry_trusted :
    reference.loadFabrics (blobsOf truncatedRegistry.files) = .ok [] ∧
    ∃ c w', Pending (planned reference (storagePlan fun _ => false))
      (ensureFabric reference Scenario.config []).run truncatedRegistry (.crypto c) w' ∧
      ¬ ProvablyEmpty reference (fun _ => false) w' := by
  refine ⟨Scenario.loads_nothing fun _ => World.put_files_of_ne _ (devices_ne_fabric _).symm _, ?_⟩
  have comes : Comes (planned reference (storagePlan fun _ => false))
      (ensureFabric reference Scenario.config []).run truncatedRegistry _ _ :=
    comes_to_bootstrap Scenario.config rfl damaged_truncatedRegistry.loads_empty
  obtain ⟨w', pending, hs⟩ := comes.pending
  exact ⟨_, w', pending, fun h => damaged_truncatedRegistry.not_provablyEmpty (h.same hs.symm)⟩

end MatterTimeCtl
