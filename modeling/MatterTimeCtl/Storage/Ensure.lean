/-
# MatterTimeCtl.Storage.Ensure — everything `ensureFabric` can do.

`ensureFabric` mixes a path that reuses the fabric, a path that discards it, guards that refuse, and a
path that mints a new one.  `EnsureSeen` lists every world that a later run can see from the start of a
call to its end, each with what the call had read by then; `EnsureResult` says which of them a value or
an error leaves behind.  `ensureFabric_spec` is proved once, for any faults and from any state, and the
properties of the following modules only look at its cases.
-/
import MatterTimeCtl.Storage.Atomic
import MatterTimeCtl.Controller.Failures

namespace MatterTimeCtl

open Files Effect

/-! ## The cases -/

/-- The world with the blob of a fabric. -/
def World.install (ext : Externals) (w : World) (f : Fabric) : World :=
  w.put (fabricPath ext f.fabIdx) (fabricBlob ext f)

/-- The world with a fabric and the identity that goes with it. -/
def World.complete (ext : Externals) (w : World) (f : Fabric) (identity : Identity) : World :=
  (w.install ext f).put identityPath (jsonFile ext.identityJson identity)

section Cases

variable (ext : Externals) (plan : (c : Call) → c.Move → Prop) (config : Config)
  (fabrics : List Fabric) (w : World)

/-- A read of devices.json came out as the empty registry. -/
def ReadsEmptyRegistry : Prop :=
  ∃ raw, Reads plan w.files devicesPath raw ∧ (registryOf ext raw).nodes.isEmpty = true

/-- The last guards are reached with these fabrics in memory, and with this world on disk: nothing was
loaded, or the first fabric was discarded. -/
inductive Cleared : List Fabric → World → Prop where
  | fresh (nothing : fabrics = []) : Cleared [] w
  | discarded {f : Fabric} {cause : IoError} (loaded : fabrics.head? = some f)
      (unread : Reads plan w.files identityPath (.error cause))
      (empty : ReadsEmptyRegistry ext plan w) :
      Cleared (fabrics.filter (·.fabIdx ≠ f.fabIdx)) (w.remove ext (fabricPath ext f.fabIdx))

/-- A fabric and the identity that were minted together. -/
structure Minted (rest : List Fabric) (f : Fabric) (identity : Identity) : Prop where
  fresh : ∀ g ∈ rest, g.fabIdx ≠ f.fabIdx
  counter : identity.nextDeviceNodeId = 1
  key : ∃ priv : PrivKey, identity.rcacPrivkeyHex = hexEncode priv.toList ∧
    f.root.publicKey = ext.publicKey priv
  fabricId : f.root.fabricId = identity.fabricId

/-- Bootstrapping is under way: the guards have been passed. -/
structure Bootstraps (rest : List Fabric) (w₀ : World) : Prop where
  cleared : Cleared ext plan fabrics w rest w₀
  absent : w₀.files identityPath = none
  empty : ReadsEmptyRegistry ext plan w

/-- The worlds a later run can see of a call to `ensureFabric` on the loaded `fabrics`. -/
inductive EnsureSeen : World → Prop where
  | untouched : EnsureSeen w
  | relabelled {text : String} {identity : Identity} {f : Fabric}
      (read : Reads plan w.files identityPath (.ok text))
      (parsed : ext.identityJson.decode text = .ok identity) (loaded : fabrics.head? = some f) :
      EnsureSeen (w.install ext (setLabel f.fabIdx config.fabricLabel f))
  | cleared {rest : List Fabric} {w₀ : World} (h : Cleared ext plan fabrics w rest w₀) :
      EnsureSeen w₀
  | installed {rest : List Fabric} {w₀ : World} {f : Fabric} {identity : Identity}
      (h : Bootstraps ext plan fabrics w rest w₀) (minted : Minted ext rest f identity) :
      EnsureSeen (w₀.install ext f)
  | complete {rest : List Fabric} {w₀ : World} {f : Fabric} {identity : Identity}
      (h : Bootstraps ext plan fabrics w rest w₀) (minted : Minted ext rest f identity) :
      EnsureSeen (w₀.complete ext f identity)

/-- What a successful call leaves behind: the identity file reads as the identity it returns, and the
fabric at the index it returns is the one in memory. -/
structure EnsureOk (w₁ : World) (result : List Fabric × FabIdx × Identity) : Prop where
  seen : EnsureSeen ext plan config fabrics w w₁
  identity : ∃ text, readText w₁.files identityPath = .ok text ∧
    ext.identityJson.decode text = .ok result.2.2
  fabric : ∃ f bytes, result.1.find? (·.fabIdx = result.2.1) = some f ∧
    w₁.files (fabricPath ext result.2.1) = some bytes ∧ ext.decodeFabric bytes = some f

/-- How a call fails, and what it leaves behind. -/
inductive EnsureError : Failure → World → Prop where
  | fault {e : Failure} {w₁ : World} (seen : EnsureSeen ext plan config fabrics w w₁)
      (fault : ¬ Smooth plan) (plain : ∀ why, e ≠ .refused why) : EnsureError e w₁
  | unparsed {e : Failure} {text cause : String} {f : Fabric} (loaded : fabrics.head? = some f)
      (read : Reads plan w.files identityPath (.ok text))
      (failed : ext.identityJson.decode text = .error cause) (plain : ∀ why, e ≠ .refused why) :
      EnsureError e w
  | unlabelled {e : Failure} {f : Fabric} {cause : MatterError} (loaded : fabrics.head? = some f)
      (failed : ext.updateLabel fabrics f.fabIdx config.fabricLabel = .error cause)
      (plain : ∀ why, e ≠ .refused why) : EnsureError e w
  | unreadable {f : Fabric} {cause : IoError} {raw : Except IoError String}
      (loaded : fabrics.head? = some f) (unread : Reads plan w.files identityPath (.error cause))
      (read : Reads plan w.files devicesPath raw)
      (registered : (registryOf ext raw).nodes.isEmpty = false) :
      EnsureError (.refused (.identityUnreadable (registryOf ext raw).nodes.size cause)) w
  | remains {rest : List Fabric} {w₀ : World} (cleared : Cleared ext plan fabrics w rest w₀)
      (present : (w₀.files identityPath).isSome = true) :
      EnsureError (.refused .identityWithoutFabric) w₀
  | registered {raw : Except IoError String} (nothing : fabrics = [])
      (absent : w.files identityPath = none) (read : Reads plan w.files devicesPath raw)
      (registered : (registryOf ext raw).nodes.isEmpty = false) :
      EnsureError (.refused (.registryWithoutFabric (registryOf ext raw).nodes.size)) w

end Cases

/-! ## Fabrics in memory -/

section Memory

@[simp] theorem setLabel_fabIdx (fabIdx : FabIdx) (label : String) (f : Fabric) :
    (setLabel fabIdx label f).fabIdx = f.fabIdx := by
  unfold setLabel
  split <;> rfl

@[simp] theorem setLabel_seed (fabIdx : FabIdx) (label : String) (f : Fabric) :
    (setLabel fabIdx label f).seed = f.seed := by
  unfold setLabel
  split <;> rfl

theorem find?_map_setLabel (fabrics : List Fabric) (fabIdx : FabIdx) (label : String) :
    (fabrics.map (setLabel fabIdx label)).find? (·.fabIdx = fabIdx) =
      (fabrics.find? (·.fabIdx = fabIdx)).map (setLabel fabIdx label) := by
  rw [List.find?_map]
  congr 2
  funext f
  simp

/-- The fabric that was added last is found under its index, with whatever label it got. -/
theorem find?_tryUpdateLabel (ext : Externals) {rest : List Fabric} {new : Fabric}
    (fresh : ∀ g ∈ rest, g.fabIdx ≠ new.fabIdx) (label : String) :
    ∃ f, (tryUpdateLabel ext (rest ++ [new]) new.fabIdx label).find? (·.fabIdx = new.fabIdx) =
      some f ∧ f.fabIdx = new.fabIdx ∧ f.seed = new.seed := by
  have hfind : (rest ++ [new]).find? (·.fabIdx = new.fabIdx) = some new := by
    rw [List.find?_append, List.find?_eq_none.mpr (by simpa using fresh)]
    simp
  unfold tryUpdateLabel
  cases hl : ext.updateLabel (rest ++ [new]) new.fabIdx label with
  | error _ => exact ⟨new, hfind, rfl, rfl⟩
  | ok labelled =>
      refine ⟨setLabel new.fabIdx label new, ?_, setLabel_fabIdx .., setLabel_seed ..⟩
      rw [ext.updateLabel_eq hl, find?_map_setLabel, hfind, Option.map_some]

end Memory

/-! ## Parts that never refuse -/

/-- No failure of this part is one of the refusals. -/
def NeverRefuses {α : Type} (x : Action α) : Prop :=
  x.run.Returns fun r => ∀ why, r ≠ .error (.refused why)

section NeverRefuses

variable {α : Type}

theorem FailsOnly.neverRefuses {x : Action α} (h : FailsOnly Failure.Ordinary x) : NeverRefuses x := by
  refine Program.Returns.mono ?_ h
  intro r hr why he
  exact hr _ he

end NeverRefuses

/-! ## Bootstrapping -/

/-- A value as described, or a fault. -/
def OrFault {ε α : Type} (plan : (c : Call) → c.Move → Prop) (P : α → Prop) : Except ε α → Prop
  | .ok a => P a
  | .error _ => ¬ Smooth plan

section Bootstrap

variable {ext : Externals} {plan : (c : Call) → c.Move → Prop} {config : Config}

theorem crypto_spec {w₀ w : World} (h : w₀.Same w) (c : CryptoCall) (what : String) :
    Safe (planned ext plan) w₀.Same (ask (.crypto c) >>= orFail (.matter what)).run
      (fun r _ => OrFault plan (fun a => ∃ w later, Lawful ext w later (.crypto c) (.ok a)) r) w := by
  refine Safe.ask_bind h fun m hm => safe_orFail.mpr ⟨h.trans (quiet_next (by trivial) w m), ?_⟩
  obtain ⟨later, answer⟩ := m
  cases answer with
  | ok a => exact ⟨w, later, hm.1.2⟩
  | error e =>
      intro smooth
      obtain ⟨a, ha⟩ := smooth _ _ hm.2
      cases ha

theorem fillBytes_spec {w₀ w : World} (h : w₀.Same w) (n : Nat) :
    Safe (planned ext plan) w₀.Same (ask (.fillBytes n)).run (fun r _ => OrFault plan (fun _ => True) r) w :=
  Safe.ask h fun m _ => ⟨h.trans (quiet_next (by trivial) w m), trivial⟩

theorem randomId_spec {w₀ w : World} (h : w₀.Same w) :
    Safe (planned ext plan) w₀.Same Identity.randomId.run
      (fun r _ => OrFault plan (fun _ => True) r) w :=
  (fillBytes_spec h 8).run_bind (fun _ h => h) (fun _ _ h _ => safe_run_pure.mpr ⟨h, trivial⟩)
    fun _ _ _ fault => fault

theorem generate_spec {w₀ w : World} (h : w₀.Same w) :
    Safe (planned ext plan) w₀.Same Identity.generate.run
      (fun r _ => OrFault plan (fun identity => identity.nextDeviceNodeId = 1) r) w := by
  refine (crypto_spec h .rand _).run_bind (fun _ h => h) (fun _ w h _ => ?_) fun _ _ _ fault => fault
  refine (randomId_spec h).run_bind (fun _ h => h) (fun _ w h _ => ?_) fun _ _ _ fault => fault
  exact (randomId_spec h).run_bind (fun _ h => h)
    (fun _ w h _ => safe_run_pure.mpr ⟨h, rfl⟩) fun _ _ _ fault => fault

/-- Minting only computes: there is nothing to see of it. -/
theorem mintFabric_spec (rest : List Fabric) (w₀ : World) :
    Safe (planned ext plan) w₀.Same (mintFabric rest).run
      (fun r _ => OrFault plan (fun (identity, fabIdx, seed) => ∀ f : Fabric, f.fabIdx = fabIdx →
        f.seed = seed → Minted ext rest f identity) r) w₀ := by
  -- the steps in their order: each asks the backend for one thing and leaves the files alone
  unfold mintFabric
  refine (generate_spec (.refl w₀)).run_bind (fun _ h => h) (fun identity w h counter => ?_)
    fun _ _ _ fault => fault
  refine (crypto_spec h (.rcacGenerate _) _).run_bind (fun _ h => h)
    (fun (rcacPriv, rcac) w h law => ?_) fun _ _ _ fault => fault
  obtain ⟨_, _, key, fabricId⟩ := law
  refine (crypto_spec h .generateSecretKey _).run_bind (fun _ h => h) (fun _ w h _ => ?_)
    fun _ _ _ fault => fault
  refine (crypto_spec h (.csr _) _).run_bind (fun _ h => h) (fun _ w h _ => ?_)
    fun _ _ _ fault => fault
  refine (crypto_spec h (.writeCanon _) _).run_bind (fun _ h => h) (fun _ w h _ => ?_)
    fun _ _ _ fault => fault
  refine (crypto_spec h (.nocGeneratorCreate _ _) _).run_bind (fun _ h => h) (fun _ w h _ => ?_)
    fun _ _ _ fault => fault
  refine (crypto_spec h (.nocGenerate _ _ _) _).run_bind (fun _ h => h) (fun _ w h _ => ?_)
    fun _ _ _ fault => fault
  refine (crypto_spec h .rand _).run_bind (fun _ h => h) (fun _ w h _ => ?_)
    fun _ _ _ fault => fault
  refine (fillBytes_spec h 16).run_bind (fun _ h => h) (fun _ w h _ => ?_)
    fun _ _ _ fault => fault
  refine (crypto_spec h (.fabricsAdd _ _) _).run_bind (fun _ h => h) (fun fabIdx w h law => ?_)
    fun _ _ _ fault => fault
  obtain ⟨_, _, fresh⟩ := law
  refine safe_run_pure.mpr ⟨h, fun f hidx hseed => ⟨?_, counter, ⟨rcacPriv, rfl, ?_⟩, ?_⟩⟩
  · rw [hidx]
    exact fresh
  · rw [Fabric.root, hseed]
    exact key
  · rw [Fabric.root, hseed]
    exact fabricId

/-- What a later run can see of a bootstrap. -/
inductive BootstrapSeen (ext : Externals) (rest : List Fabric) (w w' : World) : Prop where
  | before (same : w.Same w')
  | installed {f : Fabric} {identity : Identity} (minted : Minted ext rest f identity)
      (same : (w.install ext f).Same w')
  | complete {f : Fabric} {identity : Identity} (minted : Minted ext rest f identity)
      (same : (w.complete ext f identity).Same w')

/-- What a bootstrap returns. -/
structure Bootstrapped (ext : Externals) (rest : List Fabric) (w w' : World)
    (result : List Fabric × FabIdx × Identity) (f : Fabric) : Prop where
  minted : Minted ext rest f result.2.2
  found : result.1.find? (·.fabIdx = result.2.1) = some f
  index : f.fabIdx = result.2.1
  same : (w.complete ext f result.2.2).Same w'

theorem bootstrapFabric_spec (rest : List Fabric) (w : World) :
    Safe (planned ext plan) (BootstrapSeen ext rest w) (bootstrapFabric ext config rest).run
      (fun r w' => OrFault plan (fun result => ∃ f, Bootstrapped ext rest w w' result f) r) w := by
  refine (mintFabric_spec rest w).run_bind (fun _ => .before)
    (fun (identity, fabIdx, seed) w₁ h₁ mint => ?_) fun _ _ _ fault => fault
  dsimp only
  -- the fabric as it is found in memory after the label update
  obtain ⟨f, hfound, hidx, hseed⟩ := find?_tryUpdateLabel ext
    (mint { fabIdx, seed, label := "" } rfl rfl).fresh config.fabricLabel
  have minted := mint f hidx hseed
  -- the two files, one after the other
  have installed : (w.install ext f).Same (w₁.install ext f) := h₁.put _ _
  refine (persistFabric_atomic hfound w₁).run_bind ?_ (fun _ w₂ _ h₂ => ?_)
    fun _ _ _ fault => fault.2
  · rintro w' (h | h)
    · exact .before (h₁.trans h)
    · rw [← hidx] at h
      exact .installed minted (installed.trans h)
  rw [Settled, ← hidx] at h₂
  have complete : (w.complete ext f identity).Same
      (w₂.put identityPath (jsonFile ext.identityJson identity)) := (installed.trans h₂).put _ _
  refine (store_atomic not_isState_identityTmp _ identity w₂).attempt_bind ?_ fun r w₃ _ h => ?_
  · rintro w' (h | h)
    · exact .installed minted (installed.trans (h₂.trans h))
    · exact .complete minted (complete.trans h)
  · cases r with
    | ok _ =>
        exact safe_run_pure.mpr ⟨.complete minted (complete.trans h), f, minted, hfound, hidx,
          complete.trans h⟩
    | error cause =>
        exact safe_run_throw.mpr ⟨.installed minted (installed.trans (h₂.trans h.1)), h.2⟩

end Bootstrap

/-! ## The label -/

/-- What the label reconciliation of the first fabric leaves behind. -/
def Reconciled (ext : Externals) (plan : (c : Call) → c.Move → Prop) (label : String) (f : Fabric)
    (rest : List Fabric) (w : World) : Except Failure (List Fabric) → World → Prop
  | .ok fabrics, w' =>
    (fabrics = f :: rest ∧ w.Same w') ∨
      (fabrics = (f :: rest).map (setLabel f.fabIdx label) ∧
        (w.install ext (setLabel f.fabIdx label f)).Same w')
  | .error e, w' =>
    w.Same w' ∧ (∀ why, e ≠ .refused why) ∧
      (¬ Smooth plan ∨ ∃ cause, ext.updateLabel (f :: rest) f.fabIdx label = .error cause)

section Ensure

variable {ext : Externals} {plan : (c : Call) → c.Move → Prop} {config : Config}

theorem reconcileLabel_spec (label : String) (f : Fabric) (rest : List Fabric) (w : World) :
    Safe (planned ext plan)
      (fun w' => w.Same w' ∨ (w.install ext (setLabel f.fabIdx label f)).Same w')
      (reconcileLabel ext (f :: rest) f.fabIdx label).run (Reconciled ext plan label f rest w) w := by
  unfold reconcileLabel
  dsimp only
  split
  -- the label is right already
  · exact safe_run_pure.mpr ⟨.inl (.refl w), .inl ⟨rfl, .refl w⟩⟩
  · split
    · rename_i e hupdate
      exact safe_run_throw.mpr ⟨.inl (.refl w), .refl w, by simp, .inr ⟨e, hupdate⟩⟩
    · rename_i fabrics hupdate
      obtain rfl := ext.updateLabel_eq hupdate
      -- the fabric that is persisted is the relabelled one
      have hfound : ((f :: rest).map (setLabel f.fabIdx label)).find? (·.fabIdx = f.fabIdx) =
          some (setLabel f.fabIdx label f) := by
        rw [find?_map_setLabel, List.find?_cons_of_pos (by simp), Option.map_some]
      have persisted : Atomic ext plan
          (persistFabric ext ((f :: rest).map (setLabel f.fabIdx label)) f.fabIdx) w
          (w.put (fabricPath ext f.fabIdx) (fabricBlob ext (setLabel f.fabIdx label f))) :=
        persistFabric_atomic hfound w
      have hpersist := persisted.and_returns (failsOnly_persistFabric failureClass_ordinary ext _ _).neverRefuses
      have hpath : fabricPath ext (setLabel f.fabIdx label f).fabIdx = fabricPath ext f.fabIdx := by
        rw [setLabel_fabIdx]
      unfold World.install
      rw [hpath]
      refine hpersist.run_bind (fun _ h => h) (fun _ w₁ hseen h => ?_) fun e w₁ _ h => ?_
      · refine safe_run_pure.mpr ⟨hseen, .inr ⟨rfl, ?_⟩⟩
        rw [World.install, hpath]
        exact h.1
      · exact ⟨h.1.1, fun why he => h.2 why (congrArg _ he), .inl h.1.2⟩

/-! ## The whole call -/

/-- A later run sees one of the worlds of the call. -/
def SeenInEnsure (ext : Externals) (plan : (c : Call) → c.Move → Prop) (config : Config)
    (fabrics : List Fabric) (w w' : World) : Prop :=
  ∃ w₁, EnsureSeen ext plan config fabrics w w₁ ∧ w₁.Same w'

/-- The result of the call, and what it leaves behind. -/
def EnsureResult (ext : Externals) (plan : (c : Call) → c.Move → Prop) (config : Config)
    (fabrics : List Fabric) (w : World) :
    Except Failure (List Fabric × FabIdx × Identity) → World → Prop
  | .ok result, w' => ∃ w₁, EnsureOk ext plan config fabrics w w₁ result ∧ w₁.Same w'
  | .error e, w' => ∃ w₁, EnsureError ext plan config fabrics w e w₁ ∧ w₁.Same w'

theorem complete_ok {fabrics rest : List Fabric} {w w₀ : World} {f : Fabric}
    {result : List Fabric × FabIdx × Identity} (h : Bootstraps ext plan fabrics w rest w₀)
    (minted : Minted ext rest f result.2.2)
    (found : result.1.find? (·.fabIdx = result.2.1) = some f) (index : f.fabIdx = result.2.1) :
    EnsureOk ext plan config fabrics w (w₀.complete ext f result.2.2) result where
  seen := .complete h minted
  identity := by
    exact ⟨_, readText_jsonFile (World.put_files_self ..), ext.identityJson.decode_encode _⟩
  fabric := by
    refine ⟨f, fabricBlob ext f, found, ?_, ext.decode_encodeFabric f⟩
    rw [World.complete, World.put_files_of_ne _ (identity_ne_fabric _).symm, World.install, index]
    exact World.put_files_self _ _ _

/-- The first loaded fabric is in its blob. -/
theorem loaded_blob {f : Fabric} {rest : List Fabric} {w : World}
    (hload : ext.loadFabrics (blobsOf w.files) = .ok (f :: rest)) :
    ∃ bytes, w.files (fabricPath ext f.fabIdx) = some bytes ∧ ext.decodeFabric bytes = some f :=
  (ext.mem_loadFabrics hload f).mp (List.mem_cons_self ..)

theorem reuse_ok {f : Fabric} {rest : List Fabric} {w : World} {identity : Identity} {text : String}
    (hload : ext.loadFabrics (blobsOf w.files) = .ok (f :: rest))
    (read : Reads plan w.files identityPath (.ok text))
    (parsed : ext.identityJson.decode text = .ok identity) :
    EnsureOk ext plan config (f :: rest) w w (f :: rest, f.fabIdx, identity) where
  seen := .untouched
  identity := ⟨text, read.ok, parsed⟩
  fabric := by
    obtain ⟨bytes, hblob, hdecode⟩ := loaded_blob hload
    exact ⟨f, bytes, List.find?_cons_of_pos (by simp), hblob, hdecode⟩

theorem relabel_ok {f : Fabric} {rest : List Fabric} {w : World} {identity : Identity} {text : String}
    (read : Reads plan w.files identityPath (.ok text))
    (parsed : ext.identityJson.decode text = .ok identity) :
    EnsureOk ext plan config (f :: rest) w
      (w.install ext (setLabel f.fabIdx config.fabricLabel f))
      ((f :: rest).map (setLabel f.fabIdx config.fabricLabel), f.fabIdx, identity) where
  seen := .relabelled read parsed rfl
  identity := by
    refine ⟨text, ?_, parsed⟩
    rw [← read.ok, readText, World.install, World.put_files_of_ne _ (identity_ne_fabric _), ← readText]
  fabric := by
    refine ⟨setLabel f.fabIdx config.fabricLabel f, _, ?_, ?_, ext.decode_encodeFabric _⟩
    · rw [find?_map_setLabel, List.find?_cons_of_pos (by simp), Option.map_some]
    · rw [World.install, setLabel_fabIdx]
      exact World.put_files_self _ _ _

theorem refuseOrBootstrap_spec {fabrics rest : List Fabric} {w w₀ w₁ : World}
    (cleared : Cleared ext plan fabrics w rest w₀) (same : w₀.Same w₁)
    {raw : Except IoError String} (read : Reads plan w.files devicesPath raw)
    (hempty : fabrics ≠ [] → (registryOf ext raw).nodes.isEmpty = true) :
    Safe (planned ext plan) (SeenInEnsure ext plan config fabrics w)
      (refuseOrBootstrap ext config rest (registryOf ext raw)).run
      (EnsureResult ext plan config fabrics w) w₁ := by
  unfold refuseOrBootstrap
  refine (pathExists_spec w₁).run_bind (fun _ h => ⟨w₀, .cleared cleared, same.trans h⟩)
    (fun found w₂ h answer => ?_) fun _ _ _ h => by simp at h
  have hexists : (w₀.files identityPath).isSome = found := by
    rw [← same.at_ isState_identity]
    exact (Except.ok.inj answer).symm
  replace same := same.trans h
  have here : SeenInEnsure ext plan config fabrics w w₂ := ⟨w₀, .cleared cleared, same⟩
  cases found with
  | true => exact safe_run_throw.mpr ⟨here, w₀, .remains cleared hexists, same⟩
  | false =>
      have absent : w₀.files identityPath = none := by simpa using hexists
      cases hreg : (registryOf ext raw).nodes.isEmpty with
      | false =>
          -- only with nothing loaded can the registry still have records here
          have nothing : fabrics = [] := by
            by_contra hne
            exact absurd (hempty hne) (by simp [hreg])
          cases cleared with
          | fresh _ =>
              simp only [Bool.false_eq_true, if_false, Bool.not_false, if_true]
              exact safe_run_throw.mpr ⟨here, w, .registered nothing absent read hreg, same⟩
          | discarded loaded _ _ => simp [nothing] at loaded
      | true =>
          simp only [Bool.false_eq_true, if_false, Bool.not_true]
          have boot : Bootstraps ext plan fabrics w rest w₀ := ⟨cleared, absent, raw, read, hreg⟩
          have seen : ∀ w', BootstrapSeen ext rest w₂ w' →
              SeenInEnsure ext plan config fabrics w w' := by
            rintro w' (h | ⟨minted, h⟩ | ⟨minted, h⟩)
            · exact ⟨w₀, .cleared cleared, same.trans h⟩
            · exact ⟨_, .installed boot minted, (same.put _ _).trans h⟩
            · exact ⟨_, .complete boot minted, ((same.put _ _).put _ _).trans h⟩
          refine ((bootstrapFabric_spec rest w₂).and_returns
            (failsOnly_bootstrapFabric failureClass_ordinary ext config rest).neverRefuses).mono seen ?_
          rintro (e | result) w' hseen ⟨h, plain⟩
          · obtain ⟨w₃, hseen, h₃⟩ := seen w' hseen
            exact ⟨w₃, .fault hseen h fun why he => plain why (congrArg _ he), h₃⟩
          · obtain ⟨f, h⟩ := h
            exact ⟨_, complete_ok boot h.minted h.found h.index, ((same.put _ _).put _ _).trans h.same⟩

/-- **Everything `ensureFabric` can do**, from any state and under any faults. -/
theorem ensureFabric_spec {fabrics : List Fabric} {w : World}
    (hload : ext.loadFabrics (blobsOf w.files) = .ok fabrics) :
    Safe (planned ext plan) (SeenInEnsure ext plan config fabrics w)
      (ensureFabric ext config fabrics).run (EnsureResult ext plan config fabrics w) w := by
  have here : ∀ w', w.Same w' → SeenInEnsure ext plan config fabrics w w' := fun w' h =>
    ⟨w, .untouched, h⟩
  unfold ensureFabric
  refine (loadOrDefault_spec w).run_bind here (fun registry w₁ h₁ read => ?_)
    fun _ _ _ h => by obtain ⟨_, h, _⟩ := h; simp at h
  obtain ⟨raw, hr, read⟩ := read
  obtain rfl := Except.ok.inj hr
  -- as the source branches: no fabric loaded, or one whose identity is read
  cases fabrics with
  | nil => exact refuseOrBootstrap_spec (.fresh rfl) h₁ read (absurd rfl)
  | cons f rest =>
      simp only [List.map_cons, List.head?_cons]
      refine (read_spec w₁).run_bind (fun _ h => here _ (h₁.trans h)) (fun answer w₂ h₂ hread => ?_)
        fun _ _ _ h => by obtain ⟨_, h, _⟩ := h; simp at h
      obtain ⟨answer, ha, hread⟩ := hread
      obtain rfl := Except.ok.inj ha
      rw [Reads.same isState_identity h₁] at hread
      replace h₂ := h₁.trans h₂
      cases answer with
      | ok text =>
          cases hparse : ext.identityJson.decode text with
          | error cause =>
              simp only [hparse]
              exact safe_run_throw.mpr ⟨here _ h₂, w, .unparsed rfl hread hparse (by simp), h₂⟩
          | ok identity =>
              simp only [hparse]
              -- the identity is there: all that can change is the label
              have relabelled : EnsureSeen ext plan config (f :: rest) w _ :=
                .relabelled hread hparse rfl
              refine (reconcileLabel_spec config.fabricLabel f rest w₂).run_bind ?_
                (fun fabrics w₃ hseen h => ?_) fun e w₃ _ h => ?_
              · rintro w' (h | h)
                · exact here _ (h₂.trans h)
                · exact ⟨_, relabelled, (h₂.put _ _).trans h⟩
              · rcases h with ⟨rfl, h⟩ | ⟨rfl, h⟩
                · exact safe_run_pure.mpr ⟨here _ (h₂.trans h), w, reuse_ok hload hread hparse,
                    h₂.trans h⟩
                · exact safe_run_pure.mpr ⟨⟨_, relabelled, (h₂.put _ _).trans h⟩, _,
                    relabel_ok hread hparse, (h₂.put _ _).trans h⟩
              · obtain ⟨h, plain, fault | ⟨cause, hupdate⟩⟩ := h
                · exact ⟨w, .fault .untouched fault plain, h₂.trans h⟩
                · exact ⟨w, .unlabelled rfl hupdate plain, h₂.trans h⟩
      | error cause =>
          dsimp only
          split
          · rename_i hempty
            -- an unreadable identity over an empty registry counts as an interrupted first run
            have cleared : Cleared ext plan (f :: rest) w _ _ :=
              .discarded rfl hread ⟨raw, read, hempty⟩
            refine (logWarn_spec _ w₂).run_bind (fun _ h => here _ (h₂.trans h))
              (fun _ w₃ h₃ _ => ?_) fun _ _ _ h => by simp at h
            replace h₂ := h₂.trans h₃
            have removed := h₂.remove ext (isState_key (ext.fabricKey f.fabIdx))
            refine ((removePersistedFabric_atomic f.fabIdx w₃).and_returns
              (failsOnly_removePersistedFabric failureClass_ordinary ext _).neverRefuses).run_bind ?_
              (fun _ w₄ _ h => ?_) fun e w₄ _ h => ?_
            · rintro w' (h | h)
              · exact here _ (h₂.trans h)
              · exact ⟨_, .cleared cleared, removed.trans h⟩
            · exact refuseOrBootstrap_spec cleared (removed.trans h.1) read fun _ => hempty
            · exact ⟨w, .fault .untouched h.1.2 fun why he => h.2 why (congrArg _ he), h₂.trans h.1.1⟩
          · rename_i hne
            exact safe_run_throw.mpr ⟨here _ h₂, w, .unreadable rfl hread read (by simpa using hne), h₂⟩

end Ensure

end MatterTimeCtl
