/-
# MatterTimeCtl.Controller.KeyPanic — when a command panics.

The only panic is the slice in `hexDecode`, and only a commission decodes the key of identity.json: once it has found
the device.  So a command panics exactly if it commissions, identity.json held a key that is cut inside a
character when the command started, and a device was found (`command_panics`).
-/
import MatterTimeCtl.Controller.HexKey
import MatterTimeCtl.Storage.Operate
import MatterTimeCtl.Main

namespace MatterTimeCtl

open Files Effect

/-! ## The key in the file -/

/-- The decoder slices the key inside a character. -/
def Identity.KeyCut (identity : Identity) : Prop :=
  identity.rcacPrivkeyHex.utf8ByteSize % 2 = 0 ∧ CutsCharacter identity.rcacPrivkeyHex.toList

/-- identity.json can be parsed, and its key is cut. -/
def KeyFileCut (ext : Externals) (w : World) : Prop :=
  ∃ text identity, readText w.files identityPath = .ok text ∧ ext.identityJson.decode text = .ok identity ∧
    identity.KeyCut

theorem Identity.keyCut_iff (identity : Identity) :
    identity.KeyCut ↔ identity.rcacPrivkey = .error .panicked := by
  rw [rcacPrivkey_eq_panicked_iff, hexDecode_eq_panicked_iff]
  exact Iff.rfl

/-- A key that the program wrote is not cut. -/
theorem Identity.not_keyCut_of_hexEncode {identity : Identity} {priv : PrivKey}
    (h : identity.rcacPrivkeyHex = hexEncode priv.toList) : ¬ identity.KeyCut := by
  rw [keyCut_iff, rcacPrivkey_hexEncode h]
  exact nofun

section Key

variable {ext : Externals} {plan : (c : Call) → c.Move → Prop} {config : Config}

theorem keyFileCut_congr {w w' : World} (h : w'.files identityPath = w.files identityPath) :
    KeyFileCut ext w' ↔ KeyFileCut ext w := by
  have hread : readText w'.files identityPath = readText w.files identityPath := by
    simp only [readText, h]
  simp only [KeyFileCut, hread]

theorem keyFileCut_of_same {w w' : World} (h : w.Same w') : KeyFileCut ext w' ↔ KeyFileCut ext w :=
  keyFileCut_congr (h.at_ isState_identity)

/-- The file holds the identity, so its key is that of the file. -/
theorem keyFileCut_iff {w : World} {text : String} {identity : Identity}
    (read : readText w.files identityPath = .ok text) (parsed : ext.identityJson.decode text = .ok identity) :
    KeyFileCut ext w ↔ identity.KeyCut := by
  constructor
  · rintro ⟨text', identity', read', parsed', cut⟩
    rw [read] at read'
    cases read'
    rw [parsed] at parsed'
    cases parsed'
    exact cut
  · intro cut
    exact ⟨text, identity, read, parsed, cut⟩

theorem not_keyFileCut_of_absent {w : World} (h : w.files identityPath = none) : ¬ KeyFileCut ext w := by
  rintro ⟨text, identity, read, -⟩
  rw [readText_none h] at read
  cases read

theorem Cleared.identity {fabrics rest : List Fabric} {w w₀ : World} (h : Cleared ext plan fabrics w rest w₀) :
    w₀.files identityPath = w.files identityPath := by
  cases h with
  | fresh _ => rfl
  | discarded _ _ _ => exact World.remove_files_of_ne ext w (identity_ne_key _)

/-- **The identity of an ensured fabric** has a cut key exactly if the file had one: the file is there and has been
parsed, or it was not there and the key is new. -/
theorem EnsureOk.keyCut_iff {fabrics : List Fabric} {w w₁ : World} {result : List Fabric × FabIdx × Identity}
    (h : EnsureOk ext plan config fabrics w w₁ result) : result.2.2.KeyCut ↔ KeyFileCut ext w := by
  obtain ⟨text, read, parsed⟩ := h.identity
  have held := keyFileCut_iff read parsed
  rw [← held]
  rcases h.seen with _ | _ | cleared | ⟨boot, minted⟩ | ⟨boot, minted⟩
  · exact Iff.rfl
  · exact keyFileCut_congr (World.install_identity w _)
  · exact keyFileCut_congr cleared.identity
  · exact keyFileCut_congr ((World.install_identity _ _).trans boot.cleared.identity)
  · rename_i w₀ f identity
    -- the file was not there, and now it holds a new key
    obtain ⟨priv, hkey, -⟩ := minted.key
    have absent : w.files identityPath = none := boot.cleared.identity.symm.trans boot.absent
    have written : readText (w₀.complete ext f identity).files identityPath =
        .ok (ext.identityJson.encode identity ++ "\n") := readText_jsonFile (World.put_files_self ..)
    rw [keyFileCut_iff written (ext.identityJson.decode_encode identity)]
    exact iff_of_false (Identity.not_keyCut_of_hexEncode hkey) (not_keyFileCut_of_absent absent)

end Key

/-! ## Looking for the device -/

/-- The search for a commissionable device finds one. -/
def FindsDevice : (c : Call) → c.Move → Prop
  | .browse _ _, m => ∃ peer, m.choice = .ok peer
  | _, _ => False

/-- Anything but a search for a device. -/
def NoBrowse : Call → Prop
  | .browse _ _ => False
  | _ => True

theorem Talks.noBrowse {c : Call} (h : Talk c) : NoBrowse c := by
  unfold Talk Talks at h
  split at h <;> trivial

theorem Outside.noBrowse {c : Call} (h : Outside c) : NoBrowse c := by
  unfold Outside at h
  split at h <;> trivial

theorem Serves.noBrowse {c : Call} (h : Serves c) : NoBrowse c := by
  rcases h with h | h
  · exact h.noBrowse
  · unfold OnFiles at h
    split at h <;> trivial

theorem mayEnsure_noBrowse : MayEnsure NoBrowse where
  readDevices := trivial
  findIdentity := trivial
  readIdentity := trivial
  storeIdentity := ⟨trivial, trivial, fun _ => trivial, trivial, trivial⟩
  storeKey _ := ⟨trivial, trivial, fun _ => trivial, trivial, trivial⟩
  removeKey _ := trivial
  crypto _ := trivial
  fill _ := trivial
  warn _ := trivial

section Panics

variable {ext : Externals} {plan : (c : Call) → c.Move → Prop}

/-- The run found a device to commission. -/
def DeviceFound (tr : List (Event (planned ext plan))) : Prop := ∃ e ∈ tr, FindsDevice e.1 e.2

theorem deviceFound_append {tr tr' : List (Event (planned ext plan))} :
    DeviceFound (tr ++ tr') ↔ DeviceFound tr ∨ DeviceFound tr' := by
  simp only [DeviceFound, List.mem_append, or_and_right, exists_or]

theorem not_deviceFound {tr : List (Event (planned ext plan))} (h : ∀ e ∈ tr, NoBrowse e.1) :
    ¬ DeviceFound tr := by
  rintro ⟨⟨c, m⟩, he, found⟩
  have hno : NoBrowse c := h _ he
  have found : FindsDevice c m := found
  cases c with
  | browse _ _ => exact hno
  | _ => exact found

/-! ## Parts that neither search nor panic -/

/-- The part does not look for a device, and it does not panic. -/
structure Harmless {α : Type} (x : Action α) : Prop where
  searchless : x.run.Uses NoBrowse
  steady : FailsOnly (· ≠ .panicked) x

theorem Harmless.traces {α : Type} {x : Action α} (h : Harmless x) (w : World) :
    Traces (planned ext plan) x.run (fun r tr _ => r ≠ .error .panicked ∧ ¬ DeviceFound tr) w := by
  have hsteady := Traces.of_returns (E := planned ext plan) h.steady w
  refine ((Traces.of_uses h.searchless w).and hsteady).mono fun r tr w' ⟨uses, steady⟩ => ?_
  exact ⟨fun panicked => steady .panicked panicked rfl, not_deviceFound uses⟩

/-- The result is a panic exactly if a device was found, where `k` says that the key is cut. -/
def PanicsIf (k : Prop) {α : Type} (r : Except Failure α) (tr : List (Event (planned ext plan))) (_ : World) : Prop :=
  r = .error .panicked ↔ k ∧ DeviceFound tr

variable {α β : Type} {k : Prop}

/-- Before the search. -/
theorem Harmless.before {x : Action α} (h : Harmless x) {f : α → Action β} {J : α → World → Prop}
    {I : World → Prop} {w : World}
    (result : Safe (planned ext plan) I x.run (fun r w' => ∀ a, r = .ok a → J a w') w)
    (next : ∀ a w', J a w' → Traces (planned ext plan) (f a).run (PanicsIf k) w') :
    Traces (planned ext plan) (x >>= f).run (PanicsIf k) w := by
  refine ((h.traces w).and_safe result).run_bind ?_ ?_
  · rintro a tr w' ⟨⟨-, unfound⟩, hJ⟩
    refine (next a w' (hJ a rfl)).mono fun r tr' w'' panics => ?_
    unfold PanicsIf at panics ⊢
    rw [panics, deviceFound_append, or_iff_right unfound]
  · rintro e tr w' ⟨⟨steady, unfound⟩, -⟩
    exact iff_of_false (fun he => steady (congrArg _ (Except.error.inj he))) fun both => unfound both.2

/-- After the search. -/
theorem Harmless.after {x : Action α} {f : α → Action β} (h : ∀ a, Harmless (f a)) {w : World}
    (search : Traces (planned ext plan) x.run (fun r tr w' => PanicsIf k r tr w' ∧ ∀ a, r = .ok a → ¬ k) w) :
    Traces (planned ext plan) (x >>= f).run (PanicsIf k) w := by
  refine search.run_bind ?_ ?_
  · rintro a tr w' ⟨-, hk⟩
    refine ((h a).traces w').mono fun r tr' w'' ⟨steady, _⟩ => ?_
    exact iff_of_false steady fun both => hk a rfl both.1
  · rintro e tr w' ⟨panics, -⟩
    refine Iff.trans ?_ panics
    exact ⟨fun he => congrArg _ (Except.error.inj he), fun he => congrArg _ (Except.error.inj he)⟩

/-! ## A commission -/

theorem Harmless.bind {x : Action α} {f : α → Action β} (hx : Harmless x) (hf : ∀ a, Harmless (f a)) :
    Harmless (x >>= f) :=
  ⟨uses_run_bind hx.searchless fun a => (hf a).searchless, hx.steady.bind fun a => (hf a).steady⟩

theorem Harmless.of_ordinary {x : Action α} (uses : x.run.Uses NoBrowse) (fails : FailsOnly Failure.Ordinary x) :
    Harmless x := ⟨uses, fails.mono fun _ => Failure.Ordinary.ne_panicked⟩

theorem harmless_withTimeout (what : String) (secs : Nat) (future : Future) :
    Harmless (withTimeout what secs future) :=
  .of_ordinary (uses_withTimeout trivial what)
    (failsOnly_withTimeout failureClass_ordinary (contained_any what) secs future)

theorem harmless_record (ctx : Ctx) (nodeId : NodeId) : Harmless (CommissionOp.record ext ctx nodeId) := by
  refine .of_ordinary ?_ (failsOnly_record failureClass_ordinary ext ctx nodeId)
  have patch : ∀ names : Option String × Option String, ∀ device : DeviceRecord, (do
      let now ← ask .now
      return { device with
        vendorName := names.1, productName := names.2
        lastSuccessfulConnection := some now } : Action DeviceRecord).run.Uses Talk := fun _ _ =>
    uses_run_bind (uses_ask trivial) fun _ => uses_run_pure _
  refine uses_run_bind ((talk_readDeviceNames ext ctx nodeId trivial trivial).mono fun _ => Talks.noBrowse)
    fun names => ?_
  refine uses_run_bind ((serves_updateDevice ext nodeId (patch names)).mono fun _ => Serves.noBrowse) fun _ => ?_
  refine uses_run_bind ?_ fun _ => uses_run_pure _
  exact (onFiles_store _ _ _).mono fun _ h => Serves.noBrowse (.inr h)

/-- A key that is not cut can be looked at. -/
theorem harmless_key {identity : Identity} (uncut : ¬ identity.KeyCut) :
    Harmless (orFail id identity.rcacPrivkey) := by
  refine ⟨uses_orFail _ _, ?_⟩
  cases hkey : identity.rcacPrivkey with
  | ok priv => exact failsOnly_pure priv
  | error e =>
      refine failsOnly_throw ?_
      rintro rfl
      exact uncut (identity.keyCut_iff.mpr hkey)

/-- A search that does not find a device fails, and it does not panic. -/
theorem search_traces (shortDiscriminator : UInt8) (timeoutMs : Nat) (what : String) (w : World) :
    Traces (planned ext plan) (ask (.browse shortDiscriminator timeoutMs) >>= orFail (.matter what)).run
      (fun r tr _ => (∀ peer, r = .ok peer → DeviceFound tr) ∧
        ∀ e, r = .error e → e ≠ .panicked ∧ ¬ DeviceFound tr) w := by
  rw [Effect.run_bind, run_ask, Program.call_bind, traces_call]
  rintro ⟨later, choice⟩ -
  cases choice with
  | ok peer =>
      refine traces_done.mpr ⟨fun _ _ => ⟨_, List.mem_singleton_self _, peer, rfl⟩, ?_⟩
      intro e he
      cases he
  | error e =>
      refine traces_done.mpr ⟨fun _ => error_ne_ok, ?_⟩
      intro e' he
      cases he
      refine ⟨nofun, ?_⟩
      rintro ⟨event, hevent, found⟩
      obtain rfl := List.mem_singleton.mp hevent
      obtain ⟨peer, hpeer⟩ := found
      cases hpeer

/-- **Searching and joining.**  The key is looked at once a device was found. -/
theorem join_panics (ctx : Ctx) (onboarding : Onboarding) (hk : ctx.identity.KeyCut ↔ k) (w : World) :
    Traces (planned ext plan) (CommissionOp.join ctx onboarding).run
      (fun r tr w' => PanicsIf k r tr w' ∧ ∀ a, r = .ok a → ¬ k) w := by
  unfold CommissionOp.join
  refine (search_traces _ _ _ w).run_bind ?_ ?_
  · rintro peer tr w' ⟨found, -⟩
    have found : ∀ tr', DeviceFound (tr ++ tr') := fun _ => deviceFound_append.mpr (.inl (found peer rfl))
    by_cases cut : ctx.identity.KeyCut
    · have hkey := ctx.identity.keyCut_iff.mp cut
      simp only [hkey]
      exact traces_done.mpr ⟨iff_of_true rfl ⟨hk.mp cut, found []⟩, fun _ => error_ne_ok⟩
    · have uncut : ¬ k := fun hk' => cut (hk.mpr hk')
      refine Traces.mono (Harmless.traces ?_ w') fun r tr' w'' ⟨steady, _⟩ =>
        ⟨iff_of_false steady fun both => uncut both.1, fun _ _ => uncut⟩
      -- what follows the search
      refine (harmless_key cut).bind fun priv => Harmless.bind (.of_ordinary ?_ ?_) fun _ => ?_
      · exact uses_run_bind (uses_ask trivial) fun _ => uses_orFail _ _
      · exact (failsOnly_ask _).bind fun r => failsOnly_orFail (fun _ => trivial) r
      refine (harmless_withTimeout _ _ _).bind fun _ => ?_
      split
      · exact .of_ordinary (uses_run_bind (uses_run_throw _) fun _ => uses_run_pure _)
          ((failsOnly_throw trivial).bind fun _ => failsOnly_pure _)
      · exact (harmless_withTimeout _ _ _).bind fun _ => .of_ordinary (uses_run_pure _) (failsOnly_pure _)
  · rintro e tr w' ⟨-, failed⟩
    obtain ⟨steady, unfound⟩ := failed e rfl
    exact ⟨iff_of_false (fun he => steady (Except.error.inj he)) fun both => unfound both.2, fun _ => error_ne_ok⟩

theorem commissionOp_panics (ctx : Ctx) (onboarding : Onboarding) (hk : ctx.identity.KeyCut ↔ k) (w : World) :
    Traces (planned ext plan) (CommissionOp.run ext ctx onboarding).run (PanicsIf k) w :=
  Harmless.after (harmless_record ctx) (join_panics ctx onboarding hk w)

/-! ## A command -/

variable {config : Config}

/-- A part before the search whose value does not matter. -/
theorem Harmless.before_any {x : Action α} (h : Harmless x) {f : α → Action β} {w : World}
    (next : ∀ a w', Traces (planned ext plan) (f a).run (PanicsIf k) w') :
    Traces (planned ext plan) (x >>= f).run (PanicsIf k) w := by
  refine h.before (J := fun _ _ => True) (I := fun _ => True) ?_ fun a w' _ => next a w'
  exact (safe_of_returns (Program.returns_trivial _) w).mono (fun _ h => h) fun _ _ _ _ _ _ => trivial

/-- A part before the search that leaves the state files alone. -/
theorem Harmless.before_quiet {x : Action α} (h : Harmless x) (quiet : x.run.Uses Quiet) {f : α → Action β}
    {w : World} (next : ∀ a w', w.Same w' → Traces (planned ext plan) (f a).run (PanicsIf k) w') :
    Traces (planned ext plan) (x >>= f).run (PanicsIf k) w := by
  refine h.before (J := fun _ w' => w.Same w') (I := w.Same) ?_ next
  exact (safe_quiet quiet w).mono (fun _ hs => hs) fun _ _ hs _ _ _ => hs

theorem harmless_pickInterface : Harmless pickInterface := by
  refine .of_ordinary ?_ (failsOnly_pickInterface failureClass_ordinary)
  refine uses_run_bind (uses_run_bind (uses_ask trivial) fun _ => uses_orFail _ _) fun all => ?_
  split
  · exact uses_run_pure _
  · exact uses_run_throw _

theorem runLocked_panics (onboarding : Onboarding) (w : World) :
    Traces (planned ext plan) (runLocked ext config (.commission onboarding)).run
      (PanicsIf (KeyFileCut ext w)) w := by
  have load : Harmless (ask .loadPersist >>= orFail (.matter "load persisted Matter state")) :=
    .of_ordinary (uses_run_bind (uses_ask trivial) fun _ => uses_orFail _ _)
      ((failsOnly_ask _).bind fun r => failsOnly_orFail (fun _ => trivial) r)
  have ensure : ∀ fabrics, Harmless (ensureFabric ext config fabrics) := fun fabrics =>
    ⟨mayEnsure_noBrowse.ensureFabric ext config fabrics,
      failsOnly_ensureFabric (runFailureClass_steady ext config) fabrics⟩
  unfold runLocked
  refine load.before (J := fun fabrics w' => w.Same w' ∧ ext.loadFabrics (blobsOf w.files) = .ok fabrics)
    (I := w.Same) ?_ fun fabrics w₁ ⟨same, hload⟩ => ?_
  · exact (loadPersist_spec w).mono (fun _ hs => hs) fun r w' hs hr a ha => ⟨hs, hr a ha⟩
  rw [← same.blobs] at hload
  refine (ensure fabrics).before (J := fun result _ => result.2.2.KeyCut ↔ KeyFileCut ext w)
    (I := SeenInEnsure ext plan config fabrics w₁) ?_ fun (fabrics', fabIdx, identity) w₂ hk => ?_
  · refine (ensureFabric_spec hload).mono (fun _ hs => hs) fun r w' _ hr result he => ?_
    subst he
    obtain ⟨w₀, ensured, -⟩ := hr
    rw [ensured.keyCut_iff, keyFileCut_of_same same]
  -- the sockets
  refine Harmless.before_any (.of_ordinary ?_ ?_) fun _ w₃ => ?_
  · exact uses_run_bind (uses_ask trivial) fun _ => uses_orFail _ _
  · exact (failsOnly_ask _).bind fun r => failsOnly_orFail (fun _ => trivial) r
  refine harmless_pickInterface.before_any fun (_, _, interface) w₄ => ?_
  refine Harmless.before_any (.of_ordinary ?_ ?_) fun _ w₅ => ?_
  · exact uses_run_bind (uses_ask trivial) fun _ => uses_orFail _ _
  · exact (failsOnly_ask _).bind fun r => failsOnly_orFail (fun _ => trivial) r
  exact commissionOp_panics { fabrics := fabrics', fabIdx, identity, config } onboarding hk w₅

theorem run_panics (onboarding : Onboarding) (w : World) :
    Traces (planned ext plan) (run ext config (.commission onboarding)).run
      (PanicsIf (KeyFileCut ext w)) w := by
  have prepare := outside_prepareStorageDir config
  unfold run
  refine Harmless.before_quiet (.of_ordinary (prepare.mono fun _ => Outside.noBrowse)
    (failsOnly_prepareStorageDir failureClass_ordinary config)) (prepare.mono fun _ => Outside.quiet)
    fun _ w₁ same₁ => ?_
  have lock : (lockStorage config (.commission onboarding)).run.Uses NoBrowse := by
    refine uses_run_bind (uses_run_bind (uses_ask trivial) fun _ => uses_orFail _ _) fun _ =>
      uses_run_bind (uses_ask trivial) fun granted => ?_
    split
    · exact uses_run_throw _
    · exact uses_run_pure _
  refine Harmless.before_quiet (.of_ordinary lock
    (failsOnly_lockStorage failureClass_ordinary config (contained_any _) _)) (quiet_lockStorage _)
    fun _ w₂ same₂ => ?_
  have hk : KeyFileCut ext w₂ ↔ KeyFileCut ext w := keyFileCut_of_same (same₁.trans same₂)
  refine (runLocked_panics onboarding w₂).attempt_bind fun result tr w₃ panics => ?_
  -- giving the lock back hands the result on
  rw [hk] at panics
  rw [Effect.run_bind, run_ask, Program.call_bind, traces_call]
  intro m _
  have unfound : ¬ DeviceFound ([⟨.unlock (.commission onboarding) result, m⟩] :
      List (Event (planned ext plan))) := not_deviceFound (List.forall_mem_singleton.mpr trivial)
  have handed : result.mapError id = .error .panicked ↔ result = .error .panicked := by
    cases result <;> exact Iff.rfl
  refine traces_orFail.mpr ?_
  unfold PanicsIf at panics ⊢
  rw [handed, panics, deviceFound_append, or_iff_left unfound]

/-! ## An invocation -/

def CliCommand.Commissions : CliCommand → Prop
  | .commission _ => True
  | _ => False

/-- **When a command panics**: it commissions a device and finds one, and the key in identity.json is cut. -/
theorem command_panics (check : CheckDigit) (command : CliCommand) (w : World) :
    Traces (planned ext plan) (runCliCommand ext check config command).run
      (PanicsIf (command.Commissions ∧ KeyFileCut ext w)) w := by
  -- only `commission` decodes the key
  have others : ∀ command', (∀ onboarding, command' ≠ .commission onboarding) →
      Traces (planned ext plan) (runCommand ext config command').run (PanicsIf (False ∧ KeyFileCut ext w)) w := by
    intro command' h
    refine (Traces.of_returns (failsOnly_runCommand ext config h) w).mono fun r tr w' steady => ?_
    exact iff_of_false (fun panicked => steady .panicked panicked rfl) fun both => both.1.1
  cases command with
  | status filter => exact others (.status filter) fun _ => nofun
  | inspect target => exact others (.inspect target) fun _ => nofun
  | sync target time => exact others (.sync target time) fun _ => nofun
  | decommission target => exact others (.decommission target) fun _ => nofun
  | commission pairingCode =>
      have hk : (CliCommand.commission pairingCode).Commissions ∧ KeyFileCut ext w ↔ KeyFileCut ext w :=
        and_iff_right trivial
      rw [hk]
      show Traces (planned ext plan) (orFail (fun e => Failure.message e.display)
        (parseManualCode check pairingCode) >>= runCommission ext config).run (PanicsIf (KeyFileCut ext w)) w
      cases parseManualCode check pairingCode with
      | error e =>
          refine traces_done.mpr ?_
          show Except.error (Failure.message e.display) = .error .panicked ↔ _
          refine iff_of_false (fun panicked => nomatch panicked) ?_
          rintro ⟨-, event, hevent, -⟩
          cases hevent
      | ok onboarding =>
          show Traces (planned ext plan) (run ext config (.commission onboarding) >>= fun commissioned =>
            pure (Output.commissioned [commissioned])).run (PanicsIf (KeyFileCut ext w)) w
          refine (run_panics onboarding w).run_bind ?_ ?_
          · rintro commissioned tr w' panics
            unfold PanicsIf at panics ⊢
            rw [traces_run_pure, List.append_nil, ← panics]
            exact iff_of_false nofun nofun
          · rintro e tr w' panics
            refine Iff.trans ?_ panics
            exact ⟨fun he => congrArg _ (Except.error.inj he), fun he => congrArg _ (Except.error.inj he)⟩

/-- The same of a whole invocation. -/
theorem invoke_panics {check : CheckDigit} {warnings : List String} {command : CliCommand} {w w' : World}
    {tr : List (Event (planned ext plan))} {result : Except Failure Output}
    (h : Exec (planned ext plan) (invoke ext check config warnings command).run w tr (.done (.ok result)) w') :
    result = .error .panicked ↔ (command.Commissions ∧ KeyFileCut ext w) ∧ DeviceFound tr := by
  obtain ⟨result', during, w₁, hresult, around, panics⟩ := (traces_invoke
    (R := fun r tr _ => PanicsIf (command.Commissions ∧ KeyFileCut ext w) r tr w) fun w₁ same => by
      rw [← keyFileCut_of_same same]
      exact command_panics check command w₁).result h
  cases hresult
  have logs : ∀ e : Event (planned ext plan), Logs e.1 → ¬ FindsDevice e.1 e.2 := by
    intro e hlogs hfound
    have unfound : ¬ DeviceFound [e] := not_deviceFound (List.forall_mem_singleton.mpr hlogs.talk.noBrowse)
    exact unfound ⟨e, List.mem_singleton_self e, hfound⟩
  unfold PanicsIf at panics
  rw [panics, DeviceFound, DeviceFound, around.exists_iff logs]

end Panics

end MatterTimeCtl
