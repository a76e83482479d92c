/-
# MatterTimeCtl.Storage.Bootstrap — the storage stays consistent, wherever a run is stopped.

The fabric blob is written before identity.json and identity.json before the first device record, and
each file is replaced in one step.  So the three kinds of state files can only be in four shapes: nothing,
a fabric without an identity, a matching pair, and a matching pair with records.  `Consistent` says this,
every command keeps it at each of its points as long as existing files can be read, and from a consistent
storage `ensureFabric` does not fail unless there is a fault.
-/
import MatterTimeCtl.Storage.Operate
import MatterTimeCtl.Scenario.Storage

namespace MatterTimeCtl

open Files Effect

/-! ## Consistent storage -/

/-- Files can be read: a read only fails where the file is missing or not text. -/
def ReadsSucceed (plan : (c : Call) → c.Move → Prop) : Prop :=
  ∀ p m, plan (.file (.readToString p)) m → m.choice = Io.succeed

theorem Smooth.reads {plan : (c : Call) → c.Move → Prop} (h : Smooth plan) : ReadsSucceed plan :=
  fun _ m hm => h _ m hm

section Consistency

variable (ext : Externals)

/-- The fabric is in the blob at its index. -/
def Persisted (w : World) (f : Fabric) : Prop :=
  ∃ bytes, w.files (fabricPath ext f.fabIdx) = some bytes ∧ ext.decodeFabric bytes = some f

/-- The identity holds the root key of the fabric and its id. -/
structure Belongs (identity : Identity) (f : Fabric) : Prop where
  key : ∃ priv : PrivKey, identity.rcacPrivkeyHex = hexEncode priv.toList ∧
    f.root.publicKey = ext.publicKey priv
  fabricId : f.root.fabricId = identity.fabricId

/-- identity.json is complete, and it belongs to a persisted fabric. -/
def Paired (w : World) : Prop :=
  ∃ text identity f, readText w.files identityPath = .ok text ∧
    ext.identityJson.decode text = .ok identity ∧ Persisted ext w f ∧ Belongs ext identity f

/-- **The storage invariant.** -/
structure Consistent (w : World) : Prop where
  /-- Blobs hold the fabric they are named after. -/
  blobs : ∀ fabIdx bytes, w.files (fabricPath ext fabIdx) = some bytes →
    ∃ f, ext.decodeFabric bytes = some f ∧ f.fabIdx = fabIdx
  single : ∀ i j, w.files (fabricPath ext i) ≠ none → w.files (fabricPath ext j) ≠ none → i = j
  identity : w.files identityPath ≠ none → Paired ext w
  records : (w.registry ext).nodes.isEmpty = false → w.files identityPath ≠ none
  /-- Devices are on the fabric that is persisted, and there is an identity for it. -/
  joined : ∀ j ∈ w.history.joined, w.files identityPath ≠ none ∧
    ∃ f, Persisted ext w f ∧ j.2 = f.root
  orphaned : w.history.orphaned = []

end Consistency

section Facts

variable {ext : Externals} {plan : (c : Call) → c.Move → Prop} {config : Config} {w w' w₀ : World}
  {f : Fabric} {fabrics rest : List Fabric}

theorem Virgin.consistent (h : Virgin w) : Consistent ext w where
  blobs fabIdx bytes hb := absurd hb (by simp [h.files _ (isState_fabric fabIdx)])
  single i _ hi _ := absurd (h.files _ (isState_fabric i)) hi
  identity hi := absurd (h.files _ isState_identity) hi
  records hr := by
    rw [registry_of_absent ext (h.files _ isState_devices)] at hr
    cases hr
  joined j hj := by
    rw [h.history] at hj
    cases hj
  orphaned := by rw [h.history]

theorem Persisted.same (h : AgreeOn IsState w.files w'.files) (hf : Persisted ext w f) :
    Persisted ext w' f := by
  obtain ⟨bytes, hb, hd⟩ := hf
  exact ⟨bytes, (h _ (isState_fabric _)).trans hb, hd⟩

/-- Consistency is about the state files and about who was joined and orphaned. -/
theorem Consistent.transfer (hw : Consistent ext w) (h : AgreeOn IsState w.files w'.files)
    (joined : w'.history.joined = w.history.joined)
    (orphaned : w'.history.orphaned = w.history.orphaned) : Consistent ext w' := by
  have hblob : ∀ i, w'.files (fabricPath ext i) = w.files (fabricPath ext i) := fun i =>
    h _ (isState_fabric i)
  have hid := h _ isState_identity
  have hreg : w'.registry ext = w.registry ext := by
    simp only [World.registry, readText, h _ isState_devices]
  refine ⟨?_, ?_, ?_, ?_, ?_, ?_⟩
  · intro i bytes hb
    exact hw.blobs i bytes ((hblob i).symm.trans hb)
  · intro i j hi hj
    rw [hblob] at hi hj
    exact hw.single i j hi hj
  · intro hi
    rw [hid] at hi
    obtain ⟨text, identity, f, hread, hparse, hf, hbel⟩ := hw.identity hi
    refine ⟨text, identity, f, ?_, hparse, hf.same h, hbel⟩
    rwa [readText, hid, ← readText]
  · rw [hreg, hid]
    exact hw.records
  · rw [joined, hid]
    intro j hj
    obtain ⟨hi, f, hf, hroot⟩ := hw.joined j hj
    exact ⟨hi, f, hf.same h, hroot⟩
  · rw [orphaned]
    exact hw.orphaned

theorem stable_consistent : Stable (Consistent ext) := fun _ _ h hw =>
  hw.transfer h.files (congrArg History.joined h.history) (congrArg History.orphaned h.history)

/-- There is only one fabric to be persisted. -/
theorem Consistent.persisted_unique (hw : Consistent ext w) {g : Fabric} (hf : Persisted ext w f)
    (hg : Persisted ext w g) : f = g := by
  obtain ⟨bytes, hb, hd⟩ := hf
  obtain ⟨bytes', hb', hd'⟩ := hg
  have hidx := hw.single f.fabIdx g.fabIdx (by simp [hb]) (by simp [hb'])
  rw [← hidx, hb] at hb'
  rw [← Option.some.inj hb', hd] at hd'
  exact Option.some.inj hd'

theorem mem_loaded (hload : ext.loadFabrics (blobsOf w.files) = .ok fabrics) :
    f ∈ fabrics ↔ Persisted ext w f := ext.mem_loadFabrics hload f

/-- The persisted fabric is the only one loaded. -/
theorem Consistent.loaded (hw : Consistent ext w)
    (hload : ext.loadFabrics (blobsOf w.files) = .ok fabrics) (hf : Persisted ext w f) :
    fabrics = [f] := by
  have honly : ∀ g ∈ fabrics, g = f := fun g hg =>
    hw.persisted_unique ((mem_loaded hload).mp hg) hf
  have hmem : f ∈ fabrics := (mem_loaded hload).mpr hf
  have hnodup := ext.nodup_loadFabrics hload
  match fabrics with
  | [] => cases hmem
  | [g] => rw [honly g (List.mem_singleton_self g)]
  | g :: g' :: rest =>
      have hg := honly g (by simp)
      have hg' := honly g' (by simp)
      simp [hg, hg'] at hnodup

/-- Nothing is loaded only when nothing is persisted. -/
theorem Consistent.no_blobs (hw : Consistent ext w)
    (hload : ext.loadFabrics (blobsOf w.files) = .ok []) (i : FabIdx) :
    w.files (fabricPath ext i) = none := by
  cases hb : w.files (fabricPath ext i) with
  | none => rfl
  | some bytes =>
      obtain ⟨f, hd, rfl⟩ := hw.blobs i bytes hb
      exact absurd ((mem_loaded hload).mpr ⟨bytes, hb, hd⟩) List.not_mem_nil

theorem Consistent.absent_joined (hw : Consistent ext w) (h : w.files identityPath = none) :
    w.history.joined = [] :=
  List.eq_nil_iff_forall_not_mem.mpr fun j hj => (hw.joined j hj).1 h

theorem Consistent.absent_registry (hw : Consistent ext w) (h : w.files identityPath = none) :
    (w.registry ext).nodes.isEmpty = true := by
  by_contra hne
  exact hw.records (by simpa using hne) h

/-- A read of identity.json fails only when it is not there. -/
theorem Consistent.absent_of_unread (hw : Consistent ext w) (reads : ReadsSucceed plan)
    {cause : IoError} (h : Reads plan w.files identityPath (.error cause)) :
    w.files identityPath = none := by
  obtain ⟨m, hm, hraw⟩ := h
  rw [reads _ m hm] at hraw
  by_contra hne
  obtain ⟨text, -, -, hread, -⟩ := hw.identity hne
  rw [FileCall.answer, hread] at hraw
  cases hraw

/-- Where reads succeed, the registry that is read is the one on disk. -/
theorem Reads.registry_eq (reads : ReadsSucceed plan) {raw : Except IoError String}
    (h : Reads plan w.files devicesPath raw) : registryOf ext raw = w.registry ext := by
  obtain ⟨m, hm, rfl⟩ := h
  rw [reads _ m hm, FileCall.answer, World.registry]

/-! ## What `ensureFabric` does to it -/

/-- Without an identity or blobs nothing else is left to be inconsistent. -/
theorem consistent_of_absent (hid : w.files identityPath = none)
    (hblobs : ∀ i, w.files (fabricPath ext i) = none)
    (hreg : (w.registry ext).nodes.isEmpty = true) (hjoined : w.history.joined = [])
    (horphaned : w.history.orphaned = []) : Consistent ext w where
  blobs i bytes hb := absurd hb (by simp [hblobs i])
  single i _ hi _ := absurd (hblobs i) hi
  identity hi := absurd hid hi
  records hr := by
    rw [hreg] at hr
    cases hr
  joined j hj := by
    rw [hjoined] at hj
    cases hj
  orphaned := horphaned

/-- **Clearing**: when the last guards are reached no fabric is left, and no device has lost one. -/
theorem Consistent.cleared (hw : Consistent ext w) (reads : ReadsSucceed plan)
    (hload : ext.loadFabrics (blobsOf w.files) = .ok fabrics)
    (h : Cleared ext plan fabrics w rest w₀) :
    Consistent ext w₀ ∧ ∀ i, w₀.files (fabricPath ext i) = none := by
  cases h with
  | fresh nothing =>
      subst nothing
      exact ⟨hw, hw.no_blobs hload⟩
  | @discarded f cause loaded unread empty =>
      -- an identity that cannot be read on a disk that reads is one that is not there
      have hid := hw.absent_of_unread reads unread
      have hmem : f ∈ fabrics := List.mem_of_mem_head? (by rw [loaded]; rfl)
      obtain ⟨bytes, hb, hd⟩ := (mem_loaded hload).mp hmem
      have hjoined := hw.absent_joined hid
      have hnone : ∀ i, (w.remove ext (fabricPath ext f.fabIdx)).files (fabricPath ext i) = none := by
        intro i
        by_cases hi : i = f.fabIdx
        · rw [hi]
          exact World.remove_files_self ..
        · rw [World.remove_files_of_ne ext w fun h => hi (fabricPath_injective h)]
          by_contra hne
          exact hi (hw.single i f.fabIdx hne (by simp [hb]))
      refine ⟨consistent_of_absent ?_ hnone ?_ hjoined ?_, hnone⟩
      · rw [World.remove_files_of_ne ext w (identity_ne_fabric _)]
        exact hid
      · rw [World.registry_remove]
        exact hw.absent_registry hid
      · have nobody : w.history.joinedTo ext (w.files (fabricPath ext f.fabIdx)) = [] := by
          rw [History.joinedTo, hb, Option.bind_some, hd, hjoined]
          rfl
        show w.history.orphaned ++ _ = []
        rw [hw.orphaned, nobody, List.nil_append]

theorem persisted_install (w : World) (f : Fabric) : Persisted ext (w.install ext f) f :=
  ⟨_, World.put_files_self .., ext.decode_encodeFabric f⟩

/-- Installing a fabric where there is no other: the invariant holds again once everything that was said
of the fabric before holds of the new one. -/
theorem Consistent.install (hw : Consistent ext w)
    (hother : ∀ i, i ≠ f.fabIdx → w.files (fabricPath ext i) = none)
    (hid : w.files identityPath ≠ none → ∃ g, Persisted ext w g ∧ g.root = f.root) :
    Consistent ext (w.install ext f) where
  blobs i bytes hb := by
    by_cases hi : i = f.fabIdx
    · subst hi
      rw [World.install, World.put_files_self] at hb
      exact ⟨f, by rw [← Option.some.inj hb]; exact ext.decode_encodeFabric f, rfl⟩
    · rw [World.install, World.put_files_of_ne w fun h => hi (fabricPath_injective h), hother i hi] at hb
      cases hb
  single i j hi hj := by
    have only : ∀ i, (w.install ext f).files (fabricPath ext i) ≠ none → i = f.fabIdx := by
      intro i hi
      by_contra hne
      rw [World.install, World.put_files_of_ne w fun h => hne (fabricPath_injective h)] at hi
      exact hi (hother i hne)
    rw [only i hi, only j hj]
  identity hi := by
    rw [World.install_identity] at hi
    -- the identity belongs to the same root as before, so it belongs to the new blob
    obtain ⟨text, identity, g, hread, hparse, hg, hbel⟩ := hw.identity hi
    obtain ⟨g', hg', hroot⟩ := hid hi
    obtain rfl := hw.persisted_unique hg hg'
    refine ⟨text, identity, f, ?_, hparse, persisted_install w f, ?_⟩
    · rwa [readText, World.install_identity, ← readText]
    · exact ⟨by rw [← hroot]; exact hbel.key, by rw [← hroot]; exact hbel.fabricId⟩
  records hr := by
    rw [World.registry_install] at hr
    rw [World.install_identity]
    exact hw.records hr
  joined j hj := by
    rw [World.install_history] at hj
    rw [World.install_identity]
    obtain ⟨hi, g, hg, hj⟩ := hw.joined j hj
    obtain ⟨g', hg', hroot⟩ := hid hi
    obtain rfl := hw.persisted_unique hg hg'
    exact ⟨hi, f, persisted_install w f, hj.trans hroot⟩
  orphaned := by
    rw [World.install_history]
    exact hw.orphaned

theorem Persisted.put_of_ne {p : Path} {bytes : ByteArray} (hf : Persisted ext w f)
    (hp : ∀ i, fabricPath ext i ≠ p) : Persisted ext (w.put p bytes) f := by
  obtain ⟨blob, hb, hd⟩ := hf
  exact ⟨blob, (World.put_files_of_ne w (hp _) _).trans hb, hd⟩

/-- Writing the identity that belongs to the persisted fabric. -/
theorem Consistent.put_identity (hw : Consistent ext w) {identity : Identity}
    (hf : Persisted ext w f) (hbel : Belongs ext identity f) :
    Consistent ext (w.put identityPath (jsonFile ext.identityJson identity)) := by
  have hne : ∀ i, fabricPath ext i ≠ identityPath := fun i => (identity_ne_fabric i).symm
  have hpresent : (w.put identityPath (jsonFile ext.identityJson identity)).files identityPath ≠
      none := by simp
  refine ⟨?_, ?_, fun _ => ?_, fun _ => hpresent, ?_, hw.orphaned⟩
  · intro i bytes hb
    rw [World.put_files_of_ne w (hne i)] at hb
    exact hw.blobs i bytes hb
  · intro i j hi hj
    rw [World.put_files_of_ne w (hne _)] at hi hj
    exact hw.single i j hi hj
  · exact ⟨_, identity, f, readText_jsonFile (World.put_files_self ..), ext.identityJson.decode_encode _,
      hf.put_of_ne hne, hbel⟩
  · intro j hj
    obtain ⟨-, g, hg, hroot⟩ := hw.joined j hj
    exact ⟨hpresent, g, hg.put_of_ne hne, hroot⟩

theorem Minted.belongs {identity : Identity} (h : Minted ext rest f identity) :
    Belongs ext identity f := ⟨h.key, h.fabricId⟩

theorem setLabel_root (i : FabIdx) (label : String) (f : Fabric) : (setLabel i label f).root = f.root := by
  rw [Fabric.root, setLabel_seed, Fabric.root]

/-- **Every world of `ensureFabric` is consistent.** -/
theorem Consistent.ensure (reads : ReadsSucceed plan) {w₁ : World} (hw : Consistent ext w)
    (hload : ext.loadFabrics (blobsOf w.files) = .ok fabrics)
    (h : EnsureSeen ext plan config fabrics w w₁) : Consistent ext w₁ := by
  have installed : ∀ {rest w₀ f identity}, Bootstraps ext plan fabrics w rest w₀ →
      Minted ext rest f identity → Consistent ext (w₀.install ext f) := by
    intro rest w₀ f identity h minted
    obtain ⟨hw₀, hnone⟩ := hw.cleared reads hload h.cleared
    exact hw₀.install (fun i _ => hnone i) fun hid => absurd h.absent hid
  cases h with
  | untouched => exact hw
  | @relabelled text identity f read parsed loaded =>
      have hmem : f ∈ fabrics := List.mem_of_mem_head? (by rw [loaded]; rfl)
      have hf := (mem_loaded hload).mp hmem
      refine hw.install (fun i hi => ?_) fun _ => ⟨f, hf, (setLabel_root ..).symm⟩
      rw [setLabel_fabIdx] at hi
      by_contra hne
      obtain ⟨bytes, hb, -⟩ := hf
      exact hi (hw.single i f.fabIdx hne (by simp [hb]))
  | cleared h => exact (hw.cleared reads hload h).1
  | installed h minted => exact installed h minted
  | complete h minted =>
      exact (installed h minted).put_identity (persisted_install _ _) minted.belongs

/-- **No failure without a fault**: whatever `ensureFabric` can fail with contradicts the invariant. -/
theorem Consistent.not_ensureError {w₁ : World} {e : Failure} (hw : Consistent ext w)
    (hload : ext.loadFabrics (blobsOf w.files) = .ok fabrics) (smooth : Smooth plan) :
    ¬ EnsureError ext plan config fabrics w e w₁ := by
  intro h
  -- each reason to refuse is at odds with the invariant or with calls that succeed
  cases h with
  | fault _ fault _ => exact fault smooth
  | unparsed loaded read failed _ =>
      have present : w.files identityPath ≠ none := by
        intro h
        have htext := read.ok
        rw [readText_none h] at htext
        cases htext
      obtain ⟨text, identity, -, hread, hparse, -⟩ := hw.identity present
      rw [read.ok] at hread
      obtain rfl := Except.ok.inj hread
      rw [hparse] at failed
      cases failed
  | @unlabelled _ f cause loaded failed _ =>
      have hmem : f ∈ fabrics := List.mem_of_mem_head? (by rw [loaded]; rfl)
      rw [hw.loaded hload ((mem_loaded hload).mp hmem)] at failed
      obtain ⟨labelled, hok⟩ := ext.updateLabel_ok f config.label_length
      rw [hok] at failed
      cases failed
  | unreadable _ unread read registered =>
      rw [read.registry_eq smooth.reads] at registered
      exact hw.records registered (hw.absent_of_unread smooth.reads unread)
  | remains cleared present =>
      obtain ⟨hw₀, hnone⟩ := hw.cleared smooth.reads hload cleared
      obtain ⟨_, _, f, _, _, ⟨bytes, hb, _⟩, _⟩ := hw₀.identity (Option.isSome_iff_ne_none.mp present)
      rw [hnone] at hb
      cases hb
  | registered nothing absent read registered =>
      rw [read.registry_eq smooth.reads] at registered
      exact hw.records registered absent

theorem Consistent.loads (hw : Consistent ext w) :
    ∃ fabrics, ext.loadFabrics (blobsOf w.files) = .ok fabrics :=
  ext.loadFabrics_ok hw.blobs

/-! ## What the operations do to it -/

/-- Any change to the registry, where there is an identity. -/
theorem Consistent.put_registry (hw : Consistent ext w) (hid : w.files identityPath ≠ none)
    (bytes : ByteArray) : Consistent ext (w.put devicesPath bytes) := by
  have hne : ∀ i, fabricPath ext i ≠ devicesPath := fun i => (devices_ne_fabric i).symm
  have hidentity : (w.put devicesPath bytes).files identityPath = w.files identityPath :=
    World.put_files_of_ne w devices_ne_identity.symm _
  have hhistory : (w.put devicesPath bytes).history = w.history := by
    rw [World.put, if_neg devices_ne_identity]
  refine ⟨?_, ?_, ?_, ?_, ?_, ?_⟩
  · intro i b hb
    rw [World.put_files_of_ne w (hne i)] at hb
    exact hw.blobs i b hb
  · intro i j hi hj
    rw [World.put_files_of_ne w (hne _)] at hi hj
    exact hw.single i j hi hj
  · intro hi
    obtain ⟨text, identity, f, hread, hparse, hf, hbel⟩ := hw.identity hid
    refine ⟨text, identity, f, ?_, hparse, hf.put_of_ne hne, hbel⟩
    rwa [readText, hidentity, ← readText]
  · rw [hidentity]
    exact fun _ => hid
  · rw [hhistory, hidentity]
    intro j hj
    obtain ⟨hi, f, hf, hroot⟩ := hw.joined j hj
    exact ⟨hi, f, hf.put_of_ne hne, hroot⟩
  · rw [hhistory]
    exact hw.orphaned

/-- A device joins the persisted fabric. -/
theorem Consistent.enroll (hw : Consistent ext w) (hid : w.files identityPath ≠ none)
    (hf : Persisted ext w f) (nodeId : NodeId) : Consistent ext (w.enroll ext nodeId f) := by
  refine ⟨hw.blobs, hw.single, hw.identity, hw.records, fun j hj => ?_, hw.orphaned⟩
  rcases List.mem_cons.mp hj with rfl | hj
  · exact ⟨hid, f, hf, rfl⟩
  · exact hw.joined j hj

/-- What the operations find: the fabric they work on is the one that is persisted, and the identity
they work with belongs to it. -/
structure Ready (ext : Externals) (ctx : Ctx) (w : World) : Prop where
  consistent : Consistent ext w
  present : w.files identityPath ≠ none
  fabric : ∃ f, ctx.fabric? = some f ∧ Persisted ext w f ∧ Belongs ext ctx.identity f

theorem EnsureOk.ready {w₁ : World} {loaded : List Fabric} {fabIdx : FabIdx} {identity : Identity}
    (h : EnsureOk ext plan config loaded w w₁ (fabrics, fabIdx, identity))
    (hw : Consistent ext w₁) : Ready ext { fabrics, fabIdx, identity, config } w₁ := by
  obtain ⟨text, hread, hparse⟩ := h.identity
  have present : w₁.files identityPath ≠ none := by
    intro hnone
    rw [readText_none hnone] at hread
    cases hread
  obtain ⟨f, bytes, found, hb, hd⟩ := h.fabric
  have hidx : f.fabIdx = fabIdx := by simpa using List.find?_some found
  rw [← hidx] at hb
  obtain ⟨text', identity', g, hread', hparse', hg, hbel⟩ := hw.identity present
  rw [hread] at hread'
  obtain rfl := Except.ok.inj hread'
  rw [hparse] at hparse'
  obtain rfl := Except.ok.inj hparse'
  obtain rfl := hw.persisted_unique hg ⟨bytes, hb, hd⟩
  exact ⟨hw, present, g, found, hg, hbel⟩

/-- The pair is the one that was on disk, or it was minted where there was no identity. -/
theorem EnsureOk.origin {w₁ : World} {loaded : List Fabric} {fabIdx : FabIdx} {identity : Identity}
    (h : EnsureOk ext plan config loaded w w₁ (fabrics, fabIdx, identity)) (reads : ReadsSucceed plan)
    (hw : Consistent ext w) (hload : ext.loadFabrics (blobsOf w.files) = .ok loaded) (hw₁ : Consistent ext w₁)
    (hf : Persisted ext w₁ f) :
    (HasIdentity ext w identity ∧ ∃ g, Persisted ext w g ∧ g.root = f.root) ∨
      (w.files identityPath = none ∧ ∃ rest, Minted ext rest f identity) := by
  obtain ⟨text, hread, hparse⟩ := h.identity
  cases h.seen with
  | untouched => exact .inl ⟨⟨text, hread, hparse⟩, f, hf, rfl⟩
  | @relabelled text' identity' g read parsed loaded =>
      have hg : Persisted ext w g := (mem_loaded hload).mp (List.mem_of_mem_head? (by rw [loaded]; rfl))
      rw [readText, World.install_identity, ← readText] at hread
      refine .inl ⟨⟨text, hread, hparse⟩, g, hg, ?_⟩
      rw [hw₁.persisted_unique hf (persisted_install _ _), setLabel_root]
  | cleared cleared =>
      obtain ⟨bytes, hb, -⟩ := hf
      rw [(hw.cleared reads hload cleared).2] at hb
      cases hb
  | installed bootstraps _ =>
      rw [readText_none ((World.install_identity _ _).trans bootstraps.absent)] at hread
      cases hread
  | complete bootstraps minted =>
      have absent : w.files identityPath = none := by
        refine Eq.trans (Eq.symm ?_) bootstraps.absent
        cases bootstraps.cleared with
        | fresh _ => rfl
        | discarded _ _ _ => exact World.remove_files_of_ne ext w (identity_ne_fabric _)
      rw [World.complete, readText_jsonFile (World.put_files_self ..)] at hread
      obtain rfl := Except.ok.inj hread
      obtain rfl := Except.ok.inj (hparse.symm.trans (ext.identityJson.decode_encode _))
      rw [hw₁.persisted_unique hf ((persisted_install _ _).put_of_ne fun i => (identity_ne_fabric i).symm)]
      exact .inr ⟨absent, _, minted⟩

/-- **What `ensureFabric` provides**: an identity and a persisted fabric that belong together, which are those that
were on disk before, but for the fabric's label, or a new pair where there was none. -/
def Provided (ext : Externals) (w w' : World) : List Fabric × FabIdx × Identity → Prop
  | (fabrics, fabIdx, identity) => ∃ f, fabrics.find? (·.fabIdx = fabIdx) = some f ∧
    Persisted ext w' f ∧ Belongs ext identity f ∧ HasIdentity ext w' identity ∧
    ((HasIdentity ext w identity ∧ ∃ g, Persisted ext w g ∧ g.root = f.root) ∨
      (w.files identityPath = none ∧ ∃ rest, Minted ext rest f identity))

/-- **An uninterrupted `ensureFabric` succeeds.** -/
theorem Consistent.ensure_succeeds (hw : Consistent ext w) (smooth : Smooth plan)
    (hload : ext.loadFabrics (blobsOf w.files) = .ok fabrics) :
    Safe (planned ext plan) (fun _ => True) (ensureFabric ext config fabrics).run
      (fun r w' => ∃ result, r = .ok result ∧ Provided ext w w' result) w := by
  refine (ensureFabric_spec hload).mono (fun _ _ => trivial) fun r w' _ h => ?_
  cases r with
  | error e =>
      obtain ⟨w₁, failed, -⟩ := h
      exact absurd failed (hw.not_ensureError hload smooth)
  | ok result =>
      obtain ⟨w₁, ok, same⟩ := h
      have hw₁ := hw.ensure smooth.reads hload ok.seen
      obtain ⟨-, -, f, found, hf, belongs⟩ := ok.ready hw₁
      obtain ⟨text, read, parsed⟩ := ok.identity
      refine ⟨result, rfl, f, found, hf.same same.files, belongs, ⟨text, ?_, parsed⟩,
        ok.origin smooth.reads hw hload hw₁ hf⟩
      rwa [readText, same.at_ isState_identity, ← readText]

theorem stable_ready (ctx : Ctx) : Stable (Ready ext ctx) := by
  rintro w w' h ⟨hw, hid, f, found, hf, hbel⟩
  refine ⟨stable_consistent h hw, ?_, f, found, hf.same h.files, hbel⟩
  rwa [h.at_ isState_identity]

/-- **Every world of a commissioning is consistent.** -/
theorem Ready.commission {ctx : Ctx} {w₁ : World} (hw : Ready ext ctx w)
    (h : CommissionSeen ext plan ctx w w₁) : Consistent ext w₁ := by
  obtain ⟨g, hg, hpersisted, hbel⟩ := hw.fabric
  have recorded : ∀ {f w₁}, ctx.fabric? = some f →
      RegistryChanged ext plan (w.enroll ext ctx.identity.nextDeviceNodeId f)
        (Devices.Inserted ctx.identity.nextDeviceNodeId) w₁ →
      Consistent ext w₁ ∧ Persisted ext w₁ g := by
    rintro f w₁ found ⟨raw, devices, -, -, rfl⟩
    obtain rfl := Option.some.inj (hg.symm.trans found)
    refine ⟨(hw.consistent.enroll hw.present hpersisted _).put_registry hw.present _, ?_⟩
    exact Persisted.put_of_ne hpersisted fun i => (devices_ne_fabric i).symm
  cases h with
  | untouched => exact hw.consistent
  | assigned => exact hw.consistent.transfer (.refl _ _) rfl rfl
  | joined found =>
      obtain rfl := Option.some.inj (hg.symm.trans found)
      exact hw.consistent.enroll hw.present hpersisted _
  | recorded found changed => exact (recorded found changed).1
  | counted found changed =>
      obtain ⟨hw₁, hf⟩ := recorded found changed
      exact hw₁.put_identity hf ⟨hbel.key, hbel.fabricId⟩

/-- Consistent, with an identity: what the operations on registered devices keep. -/
def Founded (ext : Externals) (w : World) : Prop :=
  Consistent ext w ∧ w.files identityPath ≠ none

theorem stable_founded : Stable (Founded ext) := by
  intro w w' h hw
  refine ⟨stable_consistent h hw.1, ?_⟩
  rw [h.at_ isState_identity]
  exact hw.2

theorem founded_survives (targets : List NodeId) (change : NodeId → Devices → Devices → Prop) :
    SurvivesChange ext plan (Founded ext) targets change := by
  rintro nodeId - w w₁ ⟨hw, hid⟩ ⟨raw, devices, -, -, rfl⟩
  refine ⟨hw.put_registry hid _, ?_⟩
  rwa [World.put_files_of_ne w devices_ne_identity.symm]

/-! ## Whole commands -/

/-- The commands that use the storage directory for devices. -/
inductive UsesDevices : Command → Prop where
  | commission (onboarding : Onboarding) : UsesDevices (.commission onboarding)
  | sync (target : Option NodeId) (time : Option String) : UsesDevices (.sync target time)
  | decommission (target : Option NodeId) : UsesDevices (.decommission target)

/-- The runs of these commands, under any configuration. -/
def DeviceRuns (ext : Externals) (p : Prog (Except Failure Output)) : Prop :=
  ∃ config command, UsesDevices command ∧ p = (runCommand ext config command).run

/-- A run keeps the storage consistent when its operation does. -/
theorem runKeeps_consistent (reads : ReadsSucceed plan) {op : Op}
    (operate : ∀ {ctx w}, Ready ext ctx w →
      Safe (planned ext plan) (Consistent ext) (runOp ext ctx op).run (fun _ _ => True) w) :
    RunKeeps ext plan config (Consistent ext) (Consistent ext) op fun _ _ => True where
  stable := stable_consistent
  stable' := stable_consistent
  imp _ h := h
  ensure hw hload seen := hw.ensure reads hload seen
  operate hw hload hok hs :=
    operate (stable_ready _ hs (hok.ready (hw.ensure reads hload hok.seen)))
  error _ _ := trivial
  report _ _ hw _ := hw.transfer (.refl _ _) rfl rfl

theorem runKeeps_commission (reads : ReadsSucceed plan) (onboarding : Onboarding) :
    RunKeeps ext plan config (Consistent ext) (Consistent ext) (.commission onboarding)
      fun _ _ => True := by
  refine runKeeps_consistent reads fun {_ w} hready => ?_
  refine (commissionOp_spec onboarding w).mono ?_ fun _ _ _ _ => trivial
  rintro w' ⟨w₁, seen, h⟩
  exact stable_consistent h (hready.commission seen)

theorem runKeeps_sync (reads : ReadsSucceed plan) (targets : List NodeId)
    (manualTime : Option MatterMicros) :
    RunKeeps ext plan config (Consistent ext) (Consistent ext) (.sync targets manualTime)
      fun _ _ => True := by
  refine runKeeps_consistent reads fun {ctx w} hready => ?_
  exact (syncOp_keeps stable_founded manualTime (founded_survives targets _)
    ⟨hready.consistent, hready.present⟩).mono (fun _ h => h.1) fun _ _ _ _ => trivial

theorem runKeeps_decommission (reads : ReadsSucceed plan) (targets : List NodeId) :
    RunKeeps ext plan config (Consistent ext) (Consistent ext) (.decommission targets)
      fun _ _ => True := by
  refine runKeeps_consistent reads fun {ctx w} hready => ?_
  exact (decommissionOp_keeps stable_founded (founded_survives targets _)
    ⟨hready.consistent, hready.present⟩).mono (fun _ h => h.1) fun _ _ _ _ => trivial

/-- **Every point of every command is consistent**, when it starts from consistent storage. -/
theorem deviceRuns_keep (reads : ReadsSucceed plan) {p : Prog (Except Failure Output)}
    (hp : DeviceRuns ext p) (hw : Consistent ext w) :
    Safe (planned ext plan) (Consistent ext) p (fun _ _ => True) w := by
  obtain ⟨config, command, uses, rfl⟩ := hp
  have keeps : Safe (planned ext plan) (Consistent ext) (runCommand ext config command).run
      (fun _ => Consistent ext) w := by
    cases uses with
    | commission onboarding => exact runCommission_safe (runKeeps_commission reads onboarding) hw
    | sync target time =>
        exact runSync_safe (Q := fun _ _ => True)
          (fun targets manualTime => runKeeps_sync reads targets manualTime) hw
    | decommission target =>
        exact runDecommission_safe (Q := fun _ _ => True)
          (fun targets => runKeeps_decommission reads targets) hw
  exact keeps.mono (fun _ h => h) fun _ _ _ _ => trivial

/-- `ensureFabric`, started on this storage with what is loaded from it, succeeds unless there is a
fault, with the pair that is there or a new one. -/
def NextRunSucceeds (ext : Externals) (w : World) : Prop :=
  ∃ fabrics, ext.loadFabrics (blobsOf w.files) = .ok fabrics ∧ ∀ config plan, Smooth plan →
    Safe (planned ext plan) (fun _ => True) (ensureFabric ext config fabrics).run
      (fun r w' => ∃ result, r = .ok result ∧ Provided ext w w' result) w

theorem Consistent.nextRunSucceeds (hw : Consistent ext w) : NextRunSucceeds ext w := by
  obtain ⟨fabrics, hload⟩ := hw.loads
  exact ⟨fabrics, hload, fun _ _ smooth => hw.ensure_succeeds smooth hload⟩

/-- **The bootstrap is crash-safe.**  From virgin storage, at every point of every sequence of runs of
the device commands, each stopped anywhere: at most one fabric blob is persisted, an identity is
complete and belongs to it, a device record comes with both, no device was left on a discarded fabric
(the one it joined is still persisted), and the next `ensureFabric` that is not interrupted succeeds,
with the pair that is there or a new one. -/
theorem bootstrap_crash_safe (ext : Externals) {plan : (c : Call) → c.Move → Prop}
    (reads : ReadsSucceed plan) {w₀ w : World} (virgin : Virgin w₀)
    (runs : Sessions (planned ext plan) (DeviceRuns ext) w₀ w) :
    (∀ i j, w.files (fabricPath ext i) ≠ none → w.files (fabricPath ext j) ≠ none → i = j) ∧
      (w.files identityPath ≠ none → Paired ext w) ∧
      ((w.registry ext).nodes.isEmpty = false →
        w.files identityPath ≠ none ∧ ∃ i, w.files (fabricPath ext i) ≠ none) ∧
      (w.history.orphaned = [] ∧ ∀ j ∈ w.history.joined, ∃ f, Persisted ext w f ∧ j.2 = f.root) ∧
      NextRunSucceeds ext w := by
  have hw : Consistent ext w :=
    runs.invariant (fun _ hp _ hw => deviceRuns_keep reads hp hw) virgin.consistent
  refine ⟨hw.single, hw.identity, fun hrecords => ?_,
    ⟨hw.orphaned, fun j hj => (hw.joined j hj).2⟩, ?_⟩
  · have hid := hw.records hrecords
    obtain ⟨_, _, f, _, _, ⟨bytes, hb, _⟩, _⟩ := hw.identity hid
    exact ⟨hid, f.fabIdx, by simp [hb]⟩
  · exact hw.nextRunSucceeds

end Facts

/-! ## A run in which everything works -/

/-- Only reads have to succeed. -/
def readable : (c : Call) → c.Move → Prop
  | .file (.readToString _), m => m.choice = Io.succeed
  | _, _ => True

theorem reads_readable : ReadsSucceed readable := fun _ _ h => h

theorem readable_move (s : Scenario) (c : Call) (w : World) : readable c (s.script.move c w) := by
  cases c with
  | file c => cases c <;> trivial
  | _ => trivial

/-- A new host after its first commission. -/
def afterFirstCommission : World :=
  (((Scenario.script {}).restrict (readable_move {})).play
    (runCommand reference Scenario.config (.commission Scenario.onboarding)).run Scenario.freshHost).2

theorem first_commission_crash_safe :
    (∀ i j, afterFirstCommission.files (fabricPath reference i) ≠ none →
      afterFirstCommission.files (fabricPath reference j) ≠ none → i = j) ∧
      (afterFirstCommission.files identityPath ≠ none → Paired reference afterFirstCommission) ∧
      ((afterFirstCommission.registry reference).nodes.isEmpty = false →
        afterFirstCommission.files identityPath ≠ none ∧
          ∃ i, afterFirstCommission.files (fabricPath reference i) ≠ none) ∧
      (afterFirstCommission.history.orphaned = [] ∧ ∀ j ∈ afterFirstCommission.history.joined,
        ∃ f, Persisted reference afterFirstCommission f ∧ j.2 = f.root) ∧
      NextRunSucceeds reference afterFirstCommission :=
  bootstrap_crash_safe reference reads_readable Scenario.virgin_freshHost
    (.single (Script.session _ ⟨Scenario.config, _, .commission Scenario.onboarding, rfl⟩))

end MatterTimeCtl
