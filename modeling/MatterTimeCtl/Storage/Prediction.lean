/-
# MatterTimeCtl.Storage.Prediction — what `status` says of the identity, and what `ensureFabric` does.

Both classify the same files.  `identityStatus` looks for identity.json and for anything that is named
like a committed blob; `ensureFabric` goes by the fabrics that were loaded, and by the registry.  `StatusIs`
is the first classification, `EnsureResult` of an earlier module the second.  They agree but for three kinds
of states, and this module says exactly which.
-/
import MatterTimeCtl.Storage.Leftover
import MatterTimeCtl.Storage.Registry

namespace MatterTimeCtl

open Files Effect

/-! ## What `status` says -/

/-- Reads fail exactly for the unreadable files, and nothing else goes wrong. -/
def diskPlan (unreadable : Path → Bool) : (c : Call) → c.Move → Prop
  | .file (.readToString p), m => m.choice = if unreadable p then .fail 0 else .succeed
  | c, m => Faultless c m.choice

theorem smooth_diskPlan {unreadable : Path → Bool} (h : ∀ p, unreadable p = false) :
    Smooth (diskPlan unreadable) := by
  intro c m hm
  unfold diskPlan at hm
  split at hm
  · rw [hm, h, if_neg (by decide)]
    rfl
  · exact hm

theorem allowsReads_diskPlan (unreadable : Path → Bool) :
    AllowsReads (diskPlan unreadable) unreadable := ⟨fun _ _ => rfl, fun _ _ => rfl⟩

theorem reads_diskPlan {unreadable : Path → Bool} {files : FileMap Path} {p : Path}
    {raw : Except IoError String} (h : Reads (diskPlan unreadable) files p raw) :
    raw = readUnder unreadable files p := by
  obtain ⟨⟨later, io⟩, hm, rfl⟩ := h
  obtain rfl : io = if unreadable p then Io.fail 0 else .succeed := hm
  exact answer_read p files

/-- Some file in the key-value directory is named like a committed blob. -/
def World.HasBlob (w : World) : Prop :=
  ∃ name, (w.files ⟨.matter, name⟩).isSome = true ∧ isCommittedBlob name = true

/-- What the files say of the identity, as `status` sees them. -/
inductive StatusIs (ext : Externals) (unreadable : Path → Bool) (w : World) : IdentityStatus → Prop where
  | notCreated (absent : w.files identityPath = none) (noBlob : ¬ w.HasBlob) :
      StatusIs ext unreadable w .notCreated
  | lone {reason : String} (present : w.files identityPath ≠ none) (noBlob : ¬ w.HasBlob) :
      StatusIs ext unreadable w (.inconsistent reason)
  | orphan {reason : String} (absent : w.files identityPath = none) (blob : w.HasBlob) :
      StatusIs ext unreadable w (.inconsistent reason)
  | created {text : String} {identity : Identity} (blob : w.HasBlob)
      (read : readUnder unreadable w.files identityPath = .ok text)
      (parsed : ext.identityJson.decode text = .ok identity) :
      StatusIs ext unreadable w (.created identity.fabricId identity.controllerNodeId)
  | unreadable (present : w.files identityPath ≠ none) (blob : w.HasBlob)
      (unparsed : ∀ text identity, readUnder unreadable w.files identityPath = .ok text →
        ext.identityJson.decode text ≠ .ok identity) :
      StatusIs ext unreadable w .unreadable

section Status

variable {ext : Externals} {unreadable : Path → Bool} {w w₁ : World}

theorem fabricExists_spec (h : w₁.files = w.files) :
    Safe (planned ext (diskPlan unreadable)) (·.files = w.files) fabricExists.run
      (fun r _ => ∃ b, r = .ok b ∧ (b = true ↔ w.HasBlob)) w₁ := by
  refine Safe.ask_bind h fun m hm => ?_
  obtain ⟨later, choice⟩ := m
  obtain ⟨names, rfl⟩ : ∃ names, choice = .ok names := hm.2
  have listed : ∀ name, name ∈ names ↔ w₁.HasEntry .matter name := hm.1.2
  refine safe_run_pure.mpr ⟨h, _, rfl, ?_⟩
  rw [List.any_eq_true]
  refine exists_congr fun name => and_congr_left fun _ => ?_
  rw [listed, World.HasEntry, h]
  simp

/-- Where both halves are there, the identity has to be read. -/
theorem readIdentity_spec (h : w₁.files = w.files) (present : w.files identityPath ≠ none)
    (blob : w.HasBlob) :
    Safe (planned ext (diskPlan unreadable)) (·.files = w.files) (classifyIdentity ext true true).run
      (fun r _ => ∃ s, r = .ok s ∧ StatusIs ext unreadable w s) w₁ := by
  refine Safe.ask_bind h fun m hm => ?_
  obtain ⟨later, io⟩ := m
  obtain rfl : io = if unreadable identityPath then Io.fail 0 else .succeed := hm.2
  have answered : (planned ext (diskPlan unreadable)).answer (.file (.readToString identityPath)) w₁
      ⟨later, if unreadable identityPath then Io.fail 0 else .succeed⟩ =
      readUnder unreadable w.files identityPath := by
    rw [← h]
    exact answer_read identityPath w₁.files
  have same : ((planned ext (diskPlan unreadable)).next (.file (.readToString identityPath)) w₁
      ⟨later, if unreadable identityPath then Io.fail 0 else .succeed⟩).files = w.files := by
    rw [← h]
    split <;> rfl
  rw [answered]
  -- read, then parsed: only a text that passes both is an identity
  cases hread : readUnder unreadable w.files identityPath with
  | error cause =>
      refine safe_run_pure.mpr ⟨same, _, rfl, .unreadable present blob fun text identity htext => ?_⟩
      rw [hread] at htext
      cases htext
  | ok text =>
      dsimp only
      cases hparse : ext.identityJson.decode text with
      | ok identity => exact safe_run_pure.mpr ⟨same, _, rfl, .created blob hread hparse⟩
      | error cause =>
          refine safe_run_pure.mpr ⟨same, _, rfl, .unreadable present blob ?_⟩
          intro text' identity htext hdecode
          rw [hread] at htext
          obtain rfl := Except.ok.inj htext
          rw [hparse] at hdecode
          cases hdecode

/-- **What `status` says**, from any state. -/
theorem identityStatus_spec (w : World) :
    Safe (planned ext (diskPlan unreadable)) (·.files = w.files) (identityStatus ext).run
      (fun r _ => ∃ s, r = .ok s ∧ StatusIs ext unreadable w s) w := by
  refine Safe.ask_bind rfl fun m hm => ?_
  obtain ⟨later, io⟩ := m
  obtain rfl : io = Io.succeed := hm.2
  have looked : (planned ext (diskPlan unreadable)).answer (.file (.pathExists identityPath)) w
      ⟨later, Io.succeed⟩ = (w.files identityPath).isSome := rfl
  have same : ((planned ext (diskPlan unreadable)).next (.file (.pathExists identityPath)) w
      ⟨later, Io.succeed⟩).files = w.files := rfl
  rw [looked]
  refine (fabricExists_spec same).run_bind (fun _ h => h) (fun b w₂ h₂ scanned => ?_)
    fun e w₂ h₂ scanned => ?_
  · obtain ⟨b', hb, hblob⟩ := scanned
    obtain rfl := Except.ok.inj hb
    have noBlob : b = false → ¬ w.HasBlob := by
      rintro rfl h
      exact absurd (hblob.mpr h) (by decide)
    -- four cases of identity and blob, and of the one with both the reading of the identity
    cases hfile : w.files identityPath with
    | none =>
        cases b with
        | false => exact safe_run_pure.mpr ⟨h₂, _, rfl, .notCreated hfile (noBlob rfl)⟩
        | true => exact safe_run_pure.mpr ⟨h₂, _, rfl, .orphan hfile (hblob.mp rfl)⟩
    | some bytes =>
        have present : w.files identityPath ≠ none := by simp [hfile]
        cases b with
        | false => exact safe_run_pure.mpr ⟨h₂, _, rfl, .lone present (noBlob rfl)⟩
        | true => exact readIdentity_spec h₂ present (hblob.mp rfl)
  · obtain ⟨_, hb, -⟩ := scanned
    cases hb

/-- Calls that `status` can make of the files. -/
def Scans : Call → Prop
  | .file (.pathExists _) | .file (.readToString _) | .dir (.readDir .matter) => True
  | _ => False

theorem scans_identityStatus (ext : Externals) : (identityStatus ext).run.Uses Scans := by
  refine uses_run_bind (uses_ask (c := .file (.pathExists _)) trivial) fun found => ?_
  refine uses_run_bind (uses_run_bind (uses_ask (c := .dir (.readDir .matter)) trivial) fun r => ?_)
    fun blob => ?_
  · split <;> exact uses_run_pure _
  · unfold classifyIdentity
    split
    · exact uses_run_pure _
    · exact uses_run_pure _
    · exact uses_run_pure _
    · refine uses_run_bind (uses_ask (c := .file (.readToString _)) trivial) fun raw => ?_
      split
      · exact uses_run_pure _
      · split <;> exact uses_run_pure _

/-- Where the directory can be listed, `status` says something. -/
theorem identityStatus_can (listable : w.Listable .matter) :
    Can (planned ext (diskPlan unreadable)) (identityStatus ext).run
      (fun r _ => ∃ s, r = .ok s ∧ StatusIs ext unreadable w s) w := by
  refine (identityStatus_spec w).can (scans_identityStatus ext) fun c w' hc hfiles => ?_
  unfold Scans at hc
  split at hc
  · exact ⟨⟨w'.clock, Io.succeed⟩, ⟨le_rfl, trivial⟩, rfl⟩
  · exact ⟨⟨w'.clock, _⟩, ⟨le_rfl, trivial⟩, rfl⟩
  · obtain ⟨names, hnames⟩ := listable
    refine ⟨⟨w'.clock, .ok names⟩, ⟨le_rfl, fun name => ?_⟩, names, rfl⟩
    rw [hnames]
    simp only [World.HasEntry, hfiles]
    simp
  · exact hc.elim

end Status

/-! ## What `ensureFabric` does -/

/-- What the call returned when it bootstrapped a fresh identity: both halves of a new pair are on disk. -/
def BootstrapsFresh (ext : Externals) (w : World) :
    Except Failure (List Fabric × FabIdx × Identity) → World → Prop
  | .ok result, w' => ∃ f, Minted ext [] f result.2.2 ∧ (w.complete ext f result.2.2).Same w'
  | .error _, _ => False

/-- What the call returned when it reused the first fabric, with an identity of these ids. -/
def ReturnsExisting (fabrics : List Fabric) (fabricId controllerNodeId : UInt64) :
    Except Failure (List Fabric × FabIdx × Identity) → Prop
  | .ok (fabrics', fabIdx, identity) => fabrics.head?.map Fabric.fabIdx = some fabIdx ∧
      fabrics'.map Fabric.seed = fabrics.map Fabric.seed ∧ identity.fabricId = fabricId ∧
      identity.controllerNodeId = controllerNodeId
  | .error _ => False

/-- The states in which `status` and `ensureFabric` part. -/
inductive Unpredicted (ext : Externals) (config : Config) (unreadable : Path → Bool)
    (fabrics : List Fabric) (w : World) : Prop where
  /-- No trace of an identity, but devices are registered. -/
  | registered (absent : w.files identityPath = none) (noBlob : ¬ w.HasBlob)
      (registered : (registryUnder ext unreadable w).nodes.isEmpty = false)
  /-- An identity, and a file that is named like a blob, but no fabric. -/
  | unloaded {text : String} {identity : Identity} (nothing : fabrics = []) (blob : w.HasBlob)
      (read : readUnder unreadable w.files identityPath = .ok text)
      (parsed : ext.identityJson.decode text = .ok identity)
  /-- A fabric that cannot take the configured label. -/
  | unlabelled {text : String} {identity : Identity} {f : Fabric} {rest : List Fabric}
      {cause : MatterError} (loaded : fabrics = f :: rest)
      (read : readUnder unreadable w.files identityPath = .ok text)
      (parsed : ext.identityJson.decode text = .ok identity) (differs : f.label ≠ config.fabricLabel)
      (failed : ext.updateLabel fabrics f.fabIdx config.fabricLabel = .error cause)

section Ensure

variable {ext : Externals} {config : Config} {unreadable : Path → Bool} {fabrics : List Fabric}
  {w : World}

/-- The file of a loaded fabric is named like one. -/
theorem hasBlob_of_loaded (hload : ext.loadFabrics (blobsOf w.files) = .ok fabrics)
    (loaded : fabrics ≠ []) : w.HasBlob := by
  obtain ⟨f, rest, rfl⟩ := List.exists_cons_of_ne_nil loaded
  obtain ⟨bytes, hblob, -⟩ := loaded_blob hload
  refine ⟨(fabricPath ext f.fabIdx).name, ?_, ?_⟩
  · rw [show (⟨.matter, (fabricPath ext f.fabIdx).name⟩ : Path) = fabricPath ext f.fabIdx from rfl, hblob]
    rfl
  · have hpre : "k_".toList.isPrefixOf (fabricPath ext f.fabIdx).name.toList = true := by
      rw [fabricPath, keyPath, String.toList_append]
      exact List.isPrefixOf_iff_prefix.mpr (List.prefix_append _ _)
    have hsuf : ".tmp".toList.isSuffixOf (fabricPath ext f.fabIdx).name.toList = false := by
      rw [Bool.eq_false_iff]
      exact fun h => not_isTemp_key _ (List.isSuffixOf_iff_suffix.mp h)
    rw [isCommittedBlob, hpre, hsuf]
    rfl

theorem reconcileLabel_eq_pure {f : Fabric} {rest : List Fabric} {label : String}
    (h : f.label = label) : reconcileLabel ext (f :: rest) f.fabIdx label = pure (f :: rest) := by
  simp [reconcileLabel, h]

theorem map_seed_setLabel (fabrics : List Fabric) (fabIdx : FabIdx) (label : String) :
    (fabrics.map (setLabel fabIdx label)).map Fabric.seed = fabrics.map Fabric.seed := by
  rw [List.map_map]
  exact List.map_congr_left fun f _ => setLabel_seed fabIdx label f

/-- A label that is in place or can be set is reconciled, and leaves the fabrics otherwise as they are. -/
theorem reconcileLabel_returns {plan : (c : Call) → c.Move → Prop} (smooth : Smooth plan) {f : Fabric}
    {rest : List Fabric} {label : String}
    (takes : f.label ≠ label → ∀ cause, ext.updateLabel (f :: rest) f.fabIdx label ≠ .error cause)
    (w : World) :
    Safe (planned ext plan) (fun _ => True) (reconcileLabel ext (f :: rest) f.fabIdx label).run
      (fun r _ => ∃ fabrics', r = .ok fabrics' ∧
        fabrics'.map Fabric.seed = (f :: rest).map Fabric.seed) w := by
  by_cases hlabel : f.label = label
  · rw [reconcileLabel_eq_pure hlabel]
    exact safe_run_pure.mpr ⟨trivial, _, rfl, rfl⟩
  · refine (reconcileLabel_spec label f rest w).mono (fun _ _ => trivial) fun r w' _ h => ?_
    cases r with
    | error e =>
        rcases h.2.2 with fault | ⟨cause, failed⟩
        · exact absurd smooth fault
        · exact absurd failed (takes hlabel cause)
    | ok fabrics' =>
        rcases h with ⟨rfl, -⟩ | ⟨rfl, -⟩
        · exact ⟨_, rfl, rfl⟩
        · exact ⟨_, rfl, map_seed_setLabel _ _ _⟩

/-- **The existing pair is returned**, where there is one and the label is no obstacle. -/
theorem ensureFabric_existing {plan : (c : Call) → c.Move → Prop} (smooth : Smooth plan) {f : Fabric}
    {rest : List Fabric} {text : String} {identity : Identity}
    (read : readText w.files identityPath = .ok text)
    (parsed : ext.identityJson.decode text = .ok identity)
    (takes : f.label ≠ config.fabricLabel →
      ∀ cause, ext.updateLabel (f :: rest) f.fabIdx config.fabricLabel ≠ .error cause) :
    Safe (planned ext plan) (fun _ => True) (ensureFabric ext config (f :: rest)).run
      (fun r _ => ReturnsExisting (f :: rest) identity.fabricId identity.controllerNodeId r) w := by
  unfold ensureFabric
  refine (loadOrDefault_smooth smooth w).run_bind (fun _ _ => trivial) (fun registry w₁ h₁ _ => ?_)
    fun _ _ _ h => (by cases h)
  simp only [List.map_cons, List.head?_cons]
  refine (read_spec w₁).run_bind (fun _ _ => trivial) (fun answer w₂ h₂ hread => ?_)
    fun _ _ _ h => ?_
  · obtain ⟨raw, ha, hread⟩ := hread
    obtain rfl := Except.ok.inj ha
    rw [Reads.same isState_identity h₁] at hread
    rw [reads_of_smooth smooth hread, read]
    simp only [parsed]
    refine (reconcileLabel_returns smooth takes w₂).run_bind (fun _ _ => trivial)
      (fun fabrics' w₃ _ h => ?_) fun e w₃ _ h => ?_
    · obtain ⟨_, hr, hseeds⟩ := h
      obtain rfl := Except.ok.inj hr
      exact safe_run_pure.mpr ⟨trivial, rfl, hseeds, rfl, rfl⟩
    · obtain ⟨_, hr, -⟩ := h
      cases hr
  · obtain ⟨_, hr, -⟩ := h
    cases hr

/-- **A fresh pair is minted**, where there is nothing. -/
theorem ensureFabric_bootstraps {plan : (c : Call) → c.Move → Prop} (smooth : Smooth plan)
    (absent : w.files identityPath = none) (empty : (w.registry ext).nodes.isEmpty = true) :
    Safe (planned ext plan) (fun _ => True) (ensureFabric ext config []).run (BootstrapsFresh ext w) w := by
  unfold ensureFabric
  refine (loadOrDefault_smooth smooth w).run_bind (fun _ _ => trivial) (fun registry w₁ h₁ hr => ?_)
    fun _ _ _ h => (by cases h)
  obtain rfl := Except.ok.inj hr
  simp only [List.map_nil, List.head?_nil]
  unfold refuseOrBootstrap
  refine (pathExists_spec w₁).run_bind (fun _ _ => trivial) (fun found w₂ h₂ hfound => ?_)
    fun _ _ _ h => (by cases h)
  obtain rfl : found = false := by
    rw [Except.ok.inj hfound, h₁.at_ isState_identity, absent, Option.isSome_none]
  simp only [Bool.false_eq_true, if_false, empty, Bool.not_true]
  refine (bootstrapFabric_spec [] w₂).mono (fun _ _ => trivial) fun r w' _ h => ?_
  cases r with
  | error e => exact absurd smooth h
  | ok result =>
      obtain ⟨f, boot⟩ := h
      exact ⟨f, boot.minted, (((h₁.trans h₂).put _ _).put _ _).trans boot.same⟩

/-- With nothing loaded, an identity.json or a registered device makes it refuse. -/
theorem ensureFabric_canRefuse {plan : (c : Call) → c.Move → Prop} (allows : AllowsReads plan unreadable)
    (remains : w.files identityPath ≠ none ∨ (registryUnder ext unreadable w).nodes.isEmpty = false) :
    Can (planned ext plan) (ensureFabric ext config []).run (fun r _ => ∃ e, r = .error e) w := by
  unfold ensureFabric
  refine Can.run_bind ((can_load allows w).mono ?_)
  rintro _ w₁ ⟨registry, rfl, rfl, h₁⟩
  refine ⟨_, rfl, ?_⟩
  simp only [List.map_nil, List.head?_nil]
  unfold refuseOrBootstrap
  refine Can.run_bind ((can_pathExists allows identityPath w₁).mono ?_)
  rintro _ w₂ ⟨found, rfl, hfound, h₂⟩
  refine ⟨_, rfl, ?_⟩
  rw [h₁.at_ isState_identity] at hfound
  cases found with
  | true => exact can_done.mpr ⟨_, rfl⟩
  | false =>
      have absent : w.files identityPath = none := by simpa using hfound.symm
      have registered := remains.resolve_left (absurd absent)
      simp only [Bool.false_eq_true, if_false, registered, Bool.not_false, if_true]
      exact can_done.mpr ⟨_, rfl⟩

/-- A fabric that cannot take the configured label makes it fail. -/
theorem ensureFabric_canFail {plan : (c : Call) → c.Move → Prop} (allows : AllowsReads plan unreadable)
    {f : Fabric} {rest : List Fabric} {text : String} {identity : Identity} {cause : MatterError}
    (read : readUnder unreadable w.files identityPath = .ok text)
    (parsed : ext.identityJson.decode text = .ok identity) (differs : f.label ≠ config.fabricLabel)
    (failed : ext.updateLabel (f :: rest) f.fabIdx config.fabricLabel = .error cause) :
    Can (planned ext plan) (ensureFabric ext config (f :: rest)).run (fun r _ => ∃ e, r = .error e) w := by
  unfold ensureFabric
  refine Can.run_bind ((can_load allows w).mono ?_)
  rintro _ w₁ ⟨registry, rfl, rfl, h₁⟩
  refine ⟨_, rfl, ?_⟩
  simp only [List.map_cons, List.head?_cons]
  refine Can.run_bind ((can_read allows identityPath w₁).mono ?_)
  rintro _ w₂ ⟨answer, rfl, rfl, h₂⟩
  refine ⟨_, rfl, ?_⟩
  rw [readUnder_same isState_identity h₁, read]
  simp only [parsed]
  have stuck : reconcileLabel ext (f :: rest) f.fabIdx config.fabricLabel =
      throw (.matter "update local fabric label" cause) := by
    simp [reconcileLabel, differs, failed]
  rw [stuck]
  exact can_done.mpr ⟨_, rfl⟩

end Ensure

/-! ## The prediction -/

section Predicts

variable (ext : Externals) (config : Config) (unreadable : Path → Bool) (fabrics : List Fabric) (w : World)

/-- Some run of `status` says this of the identity. -/
def Tells (s : IdentityStatus) : Prop :=
  ∃ tr w', Exec (planned ext (diskPlan unreadable)) (identityStatus ext).run w tr (.done (.ok s)) w'

/-- Some run of `ensureFabric` returns this and leaves this world. -/
def Ensures (r : Except Failure (List Fabric × FabIdx × Identity)) (w' : World) : Prop :=
  ∃ tr, Exec (planned ext (diskPlan unreadable)) (ensureFabric ext config fabrics).run w tr (.done r) w'

/-- Some run of `ensureFabric` fails, or comes to the removal of a fabric's blob. -/
def RefusesOrDiscards : Prop :=
  (∃ e w', Ensures ext config unreadable fabrics w (.error e) w') ∨
    ∃ p w', Pending (planned ext (diskPlan unreadable)) (ensureFabric ext config fabrics).run w
      (.file (.removeFile p)) w'

/-- **What `status` says is what a fabric command will do.** -/
structure Predicts : Prop where
  notCreated : Tells ext unreadable w .notCreated →
    ∀ r w', Ensures ext config unreadable fabrics w r w' → BootstrapsFresh ext w r w'
  created : ∀ fabricId controllerNodeId, Tells ext unreadable w (.created fabricId controllerNodeId) →
    ∀ r w', Ensures ext config unreadable fabrics w r w' →
      ReturnsExisting fabrics fabricId controllerNodeId r
  warned : ∀ s, Tells ext unreadable w s → RefusesOrDiscards ext config unreadable fabrics w →
    s = .unreadable ∨ ∃ reason, s = .inconsistent reason

end Predicts

section Prediction

variable {ext : Externals} {config : Config} {unreadable : Path → Bool} {fabrics : List Fabric}
  {w : World}

theorem Tells.statusIs {s : IdentityStatus} (h : Tells ext unreadable w s) :
    StatusIs ext unreadable w s := by
  obtain ⟨tr, w', hx⟩ := h
  obtain ⟨s', hs, his⟩ := (identityStatus_spec w).result hx
  obtain rfl := Except.ok.inj hs
  exact his

theorem tells_of_listable (listable : w.Listable .matter) :
    ∃ s, Tells ext unreadable w s ∧ StatusIs ext unreadable w s := by
  obtain ⟨tr, r, w', hx, s, rfl, his⟩ := (identityStatus_can listable).exec
  exact ⟨s, ⟨tr, w', hx⟩, his⟩

theorem ensures_error (h : Can (planned ext (diskPlan unreadable))
    (ensureFabric ext config fabrics).run (fun r _ => ∃ e, r = .error e) w) :
    ∃ e w', Ensures ext config unreadable fabrics w (.error e) w' := by
  obtain ⟨tr, r, w', hx, e, rfl⟩ := h.exec
  exact ⟨e, w', tr, hx⟩

/-- Nothing but an identity.json that is there cannot be read. -/
def OnlyIdentityUnreadable (unreadable : Path → Bool) (w : World) : Prop :=
  ∀ p, unreadable p = true → p = identityPath ∧ w.files p ≠ none

theorem OnlyIdentityUnreadable.smooth (h : OnlyIdentityUnreadable unreadable w)
    (readable : unreadable identityPath = false) : Smooth (diskPlan unreadable) := by
  refine smooth_diskPlan fun p => ?_
  by_contra hp
  obtain ⟨rfl, -⟩ := h p (by simpa using hp)
  rw [readable] at hp
  exact hp rfl

theorem readable_of_absent (h : OnlyIdentityUnreadable unreadable w)
    (absent : w.files identityPath = none) : unreadable identityPath = false := by
  by_contra hp
  exact (h identityPath (by simpa using hp)).2 absent

theorem readable_of_read {p : Path} {text : String} (h : readUnder unreadable w.files p = .ok text) :
    unreadable p = false ∧ readText w.files p = .ok text := by
  unfold readUnder at h
  split at h
  · cases h
  · rename_i hp
    exact ⟨by simpa using hp, h⟩

theorem present_of_read {p : Path} {text : String} (h : readUnder unreadable w.files p = .ok text) :
    w.files p ≠ none := by
  intro absent
  have htext := (readable_of_read h).2
  rw [readText_none absent] at htext
  cases htext

theorem StatusIs.eq_notCreated {s : IdentityStatus} (h : StatusIs ext unreadable w s)
    (absent : w.files identityPath = none) (noBlob : ¬ w.HasBlob) : s = .notCreated := by
  cases h with
  | notCreated _ _ => rfl
  | lone present _ => exact absurd absent present
  | orphan _ blob => exact absurd blob noBlob
  | created blob _ _ => exact absurd blob noBlob
  | unreadable present _ _ => exact absurd absent present

theorem StatusIs.eq_created {s : IdentityStatus} {text : String} {identity : Identity}
    (h : StatusIs ext unreadable w s) (blob : w.HasBlob)
    (read : readUnder unreadable w.files identityPath = .ok text)
    (parsed : ext.identityJson.decode text = .ok identity) :
    s = .created identity.fabricId identity.controllerNodeId := by
  cases h with
  | notCreated absent _ => exact absurd absent (present_of_read read)
  | lone _ noBlob => exact absurd blob noBlob
  | orphan absent _ => exact absurd absent (present_of_read read)
  | created _ read' parsed' =>
      rw [read] at read'
      obtain rfl := Except.ok.inj read'
      rw [parsed] at parsed'
      rw [Except.ok.inj parsed']
  | unreadable _ _ unparsed => exact absurd parsed (unparsed _ _ read)

theorem registryUnder_eq (h : ∀ p, unreadable p = true → p = identityPath) :
    registryUnder ext unreadable w = w.registry ext := by
  have readable : unreadable devicesPath = false := by
    by_contra hp
    exact devices_ne_identity (h devicesPath (by simpa using hp))
  rw [registryUnder, readUnder, readable, if_neg (by decide)]
  rfl

/-- Without a trace of an identity the call bootstraps, where no device is registered. -/
theorem bootstraps_of_notCreated (hload : ext.loadFabrics (blobsOf w.files) = .ok fabrics)
    (only : OnlyIdentityUnreadable unreadable w) (parts : ¬ Unpredicted ext config unreadable fabrics w)
    (absent : w.files identityPath = none) (noBlob : ¬ w.HasBlob) :
    fabrics = [] ∧ Safe (planned ext (diskPlan unreadable)) (fun _ => True)
      (ensureFabric ext config fabrics).run (BootstrapsFresh ext w) w := by
  have nothing : fabrics = [] := by
    by_contra loaded
    exact noBlob (hasBlob_of_loaded hload loaded)
  have empty : (w.registry ext).nodes.isEmpty = true := by
    rw [← registryUnder_eq fun p hp => (only p hp).1]
    by_contra registered
    exact parts (.registered absent noBlob (by simpa using registered))
  subst nothing
  exact ⟨rfl, ensureFabric_bootstraps (only.smooth (readable_of_absent only absent)) absent empty⟩

/-- With an identity and a blob the call returns them, where a fabric was loaded that takes the label. -/
theorem existing_of_created (only : OnlyIdentityUnreadable unreadable w)
    (parts : ¬ Unpredicted ext config unreadable fabrics w) (blob : w.HasBlob) {text : String}
    {identity : Identity} (read : readUnder unreadable w.files identityPath = .ok text)
    (parsed : ext.identityJson.decode text = .ok identity) :
    Safe (planned ext (diskPlan unreadable)) (fun _ => True) (ensureFabric ext config fabrics).run
      (fun r _ => ReturnsExisting fabrics identity.fabricId identity.controllerNodeId r) w := by
  obtain ⟨readable, htext⟩ := readable_of_read read
  cases fabrics with
  | nil => exact absurd (.unloaded rfl blob read parsed) parts
  | cons f rest =>
      refine ensureFabric_existing (only.smooth readable) htext parsed fun differs cause failed => ?_
      exact parts (.unlabelled rfl read parsed differs failed)

/-- **Status predicts what a fabric command will do, unless they part.**  In every storage state, what
`status` says of the identity is what `ensureFabric` does if and only if the state is not one of the three
kinds of `Unpredicted`. -/
theorem status_predicts_iff (ext : Externals) (config : Config) {unreadable : Path → Bool}
    {fabrics : List Fabric} {w : World} (hload : ext.loadFabrics (blobsOf w.files) = .ok fabrics)
    (listable : w.Listable .matter) (only : OnlyIdentityUnreadable unreadable w) :
    Predicts ext config unreadable fabrics w ↔ ¬ Unpredicted ext config unreadable fabrics w := by
  constructor
  -- each exception: status says one thing, and ensuring can come to an error
  · intro predicts parts
    obtain ⟨s, tells, is⟩ : ∃ s, Tells ext unreadable w s ∧ StatusIs ext unreadable w s :=
      tells_of_listable listable
    have allows := allowsReads_diskPlan unreadable
    cases parts with
    | registered absent noBlob registered =>
        obtain rfl := is.eq_notCreated absent noBlob
        have nothing : fabrics = [] := by
          by_contra loaded
          exact noBlob (hasBlob_of_loaded hload loaded)
        subst nothing
        obtain ⟨e, w', ensures⟩ : ∃ e w', Ensures ext config unreadable [] w (.error e) w' :=
          ensures_error (ensureFabric_canRefuse allows (.inr registered))
        exact predicts.notCreated tells _ _ ensures
    | unloaded nothing blob read parsed =>
        obtain rfl := is.eq_created blob read parsed
        subst nothing
        obtain ⟨e, w', ensures⟩ : ∃ e w', Ensures ext config unreadable [] w (.error e) w' :=
          ensures_error (ensureFabric_canRefuse allows (.inl (present_of_read read)))
        exact predicts.created _ _ tells _ _ ensures
    | @unlabelled text identity f rest cause loaded read parsed differs failed =>
        subst loaded
        obtain rfl := is.eq_created (hasBlob_of_loaded hload (List.cons_ne_nil f rest)) read parsed
        obtain ⟨e, w', ensures⟩ : ∃ e w', Ensures ext config unreadable (f :: rest) w (.error e) w' :=
          ensures_error (ensureFabric_canFail allows read parsed differs failed)
        exact predicts.created _ _ tells _ _ ensures
  -- otherwise each of the three predictions is what the storage forces
  · intro parts
    refine ⟨fun tells r w' ensures => ?_, fun fabricId controllerNodeId tells r w' ensures => ?_,
      fun s tells refuses => ?_⟩
    · obtain ⟨tr, hx⟩ := ensures
      cases tells.statusIs with
      | notCreated absent noBlob =>
          exact (bootstraps_of_notCreated hload only parts absent noBlob).2.result hx
    · obtain ⟨tr, hx⟩ := ensures
      cases tells.statusIs with
      | created blob read parsed => exact (existing_of_created only parts blob read parsed).result hx
    · cases tells.statusIs with
      | lone _ _ => exact .inr ⟨_, rfl⟩
      | orphan _ _ => exact .inr ⟨_, rfl⟩
      | unreadable _ _ _ => exact .inl rfl
      | notCreated absent noBlob =>
          obtain ⟨nothing, boots⟩ := bootstraps_of_notCreated hload only parts absent noBlob
          rcases refuses with ⟨e, w', tr, hx⟩ | ⟨p, w', pending⟩
          · exact (boots.result hx).elim
          · exact absurd nothing (ensureFabric_guarded w _ _ pending).1
      | created blob read parsed =>
          rcases refuses with ⟨e, w', tr, hx⟩ | ⟨p, w', pending⟩
          · exact ((existing_of_created only parts blob read parsed).result hx).elim
          · obtain ⟨-, ⟨cause, hread⟩, -⟩ := ensureFabric_guarded w _ _ pending
            have failed := reads_diskPlan hread
            rw [read] at failed
            cases failed

end Prediction

/-! ## Hosts -/

open Scenario

theorem freshHost_listable : freshHost.Listable .matter :=
  ⟨[], fun name => by simp [World.HasEntry, freshHost]⟩

theorem oneController_listable : oneController.Listable .matter := by
  refine ⟨[(fabricPath reference fabric.fabIdx).name], fun name => ?_⟩
  have elsewhere : (⟨.matter, name⟩ : Path) ≠ identityPath := fun h => nomatch congrArg Path.dir h
  rw [List.mem_singleton, World.HasEntry, oneController, World.complete, World.put_files_of_ne _ elsewhere]
  constructor
  · rintro rfl
    have blob := World.put_files_self freshHost (fabricPath reference fabric.fabIdx) (fabricBlob reference fabric)
    exact .inl (Option.isSome_iff_exists.mpr ⟨_, blob⟩)
  · rintro (h | ⟨h, -⟩)
    · by_contra hname
      have hpath : (⟨.matter, name⟩ : Path) ≠ fabricPath reference fabric.fabIdx := fun heq =>
        hname (congrArg Path.name heq)
      rw [World.install, World.put_files_of_ne _ hpath] at h
      cases h
    · cases h

theorem hasBlob_oneController : oneController.HasBlob :=
  hasBlob_of_loaded established_oneController.loads (List.cons_ne_nil _ _)

/-- A new host, and one with an identity that can or cannot be read. -/
theorem hosts_predicted :
    Predicts reference Scenario.config (fun _ => false) [] freshHost ∧
    (Tells reference (fun _ => false) oneController (.created 1 1) ∧
      Predicts reference Scenario.config (fun _ => false) [fabric] oneController) ∧
    Tells reference (fun p => decide (p = identityPath)) oneController .unreadable ∧
      Predicts reference Scenario.config (fun p => decide (p = identityPath)) [fabric] oneController := by
  have present : oneController.files identityPath ≠ none := by simp [established_oneController.identity]
  have read : readUnder (fun _ => false) oneController.files identityPath =
      .ok (reference.identityJson.encode first ++ "\n") := by
    rw [readUnder, if_neg (by decide), readText_jsonFile established_oneController.identity]
  have unread : readUnder (fun p => decide (p = identityPath)) oneController.files identityPath = .error .other :=
    if_pos (decide_eq_true rfl)
  refine ⟨?_, ⟨?_, ?_⟩, ?_, ?_⟩
  · refine (status_predicts_iff reference Scenario.config (loads_nothing fun _ => rfl)
      freshHost_listable fun _ h => (by cases h)).mpr fun parts => ?_
    cases parts with
    | registered _ _ registered =>
        have empty : (registryUnder reference (fun _ => false) freshHost).nodes.isEmpty = true :=
          Std.ExtTreeMap.isEmpty_empty
        rw [empty] at registered
        cases registered
    | unloaded _ _ read _ => exact present_of_read read rfl
    | unlabelled loaded _ _ _ _ => cases loaded
  · obtain ⟨s, tells, is⟩ : ∃ s, Tells reference (fun _ => false) oneController s ∧
        StatusIs reference (fun _ => false) oneController s := tells_of_listable oneController_listable
    obtain rfl := is.eq_created hasBlob_oneController read (reference.identityJson.decode_encode first)
    exact tells
  · refine (status_predicts_iff reference Scenario.config established_oneController.loads
      oneController_listable fun _ h => (by cases h)).mpr fun parts => ?_
    cases parts with
    | registered absent _ _ => exact present absent
    | unloaded nothing _ _ _ => cases nothing
    | unlabelled loaded _ _ differs _ =>
        cases loaded
        exact differs rfl
  · obtain ⟨s, tells, is⟩ : ∃ s, Tells reference (fun p => decide (p = identityPath)) oneController s ∧
        StatusIs reference (fun p => decide (p = identityPath)) oneController s :=
      tells_of_listable oneController_listable
    cases is with
    | notCreated absent _ | orphan absent _ => exact absurd absent present
    | lone _ noBlob => exact absurd hasBlob_oneController noBlob
    | created _ read _ => cases unread.symm.trans read
    | unreadable _ _ _ => exact tells
  · refine (status_predicts_iff reference Scenario.config established_oneController.loads oneController_listable
      fun p h => ?_).mpr fun parts => ?_
    · obtain rfl := of_decide_eq_true h
      exact ⟨rfl, present⟩
    · cases parts with
      | registered absent _ _ => exact present absent
      | unloaded nothing _ _ _ => cases nothing
      | unlabelled _ read _ _ _ => cases unread.symm.trans read

/-- **A status that predicts nothing.**  All that is left of the storage is devices.json, which lists node 1:
`status` says that the first commission creates an identity, and the commission refuses. -/
theorem registered_host_unpredicted :
    reference.loadFabrics (blobsOf oneRegistered.files) = .ok [] ∧
      Tells reference (fun _ => false) oneRegistered .notCreated ∧
      (∃ e w', Ensures reference config (fun _ => false) [] oneRegistered (.error e) w') ∧
      ¬ Predicts reference config (fun _ => false) [] oneRegistered := by
  have elsewhere : ∀ p, p ≠ devicesPath → oneRegistered.files p = none := fun p hp =>
    World.put_files_of_ne _ hp _
  have noEntry : ∀ name, oneRegistered.files ⟨.matter, name⟩ = none := fun name =>
    elsewhere _ fun h => absurd (congrArg Path.dir h) (by simp [devicesPath])
  have noBlob : ¬ oneRegistered.HasBlob := by
    rintro ⟨name, hfile, -⟩
    rw [noEntry] at hfile
    cases hfile
  have registered : (registryUnder reference (fun _ => false) oneRegistered).nodes.isEmpty = false := by
    have hread : readText oneRegistered.files devicesPath = _ :=
      readText_jsonFile (World.put_files_self _ _ _)
    rw [registryUnder, readUnder, if_neg (by decide), hread, registryOf,
      reference.devicesJson.decode_encode]
    exact Std.ExtTreeMap.isEmpty_eq_false_iff.mpr Std.ExtTreeMap.insert_ne_empty
  obtain ⟨s, tells, is⟩ : ∃ s, Tells reference (fun _ => false) oneRegistered s ∧
      StatusIs reference (fun _ => false) oneRegistered s :=
    tells_of_listable ⟨[], fun name => by simp [World.HasEntry, noEntry]⟩
  obtain rfl := is.eq_notCreated (elsewhere _ devices_ne_identity.symm) noBlob
  obtain ⟨e, w', ensures⟩ : ∃ e w', Ensures reference config (fun _ => false) [] oneRegistered
      (.error e) w' :=
    ensures_error (ensureFabric_canRefuse (allowsReads_diskPlan _) (.inr registered))
  refine ⟨loads_nothing fun _ => elsewhere _ (devices_ne_fabric _).symm, tells, ⟨e, w', ensures⟩, ?_⟩
  intro predicts
  exact predicts.notCreated tells _ _ ensures

end MatterTimeCtl
