/-
# MatterTimeCtl.Scenario.Fleet — a scenario's invocations among others, and a fleet of two devices.

`Arrives` follows the only process of a pool through its calls, with and without the storage lock.  With it the
devices of a new host are commissioned one after the other, in an interleaving whose reads succeed.
-/
import MatterTimeCtl.Scenario.Commission
import MatterTimeCtl.Storage.Refinement

namespace MatterTimeCtl

open Files Effect Roster

namespace Scenario

variable {s : Scenario} {w w₁ : World} {α : Type}

/-- The only process of a pool. -/
abbrev alone (p : Prog (Except Failure Output)) (holds : Bool) :
    Pool Call Call.Answer (Except Failure Output) := Function.update Pool.empty 0 (some ⟨p, holds⟩)

/-- The only process goes on to a point that satisfies `R`. -/
def Arrives (p : Prog (Except Failure Output)) (holds : Bool) (w : World)
    (R : Prog (Except Failure Output) → Bool → World → Prop) : Prop :=
  ∃ q holds' w', R q holds' w' ∧ ∀ P, Pool.Steps (planned reference readable) storageLock P (fun _ _ => True)
    (alone p holds, w) (alone q holds', w')

variable {R : Prog (Except Failure Output) → Bool → World → Prop}

theorem Arrives.here {p : Prog (Except Failure Output)} {holds : Bool} (h : R p holds w) : Arrives p holds w R :=
  ⟨p, holds, w, h, fun _ => .refl⟩

/-- The script of a scenario, whose reads succeed. -/
def readableScript (s : Scenario) : Script (planned reference readable) :=
  Script.restrict (P := fun c _ m => readable c m) s.script (readable_move s)

theorem play_readableScript (s : Scenario) (p : Prog α) (w : World) :
    (readableScript s).play p w = s.script.play p w :=
  Script.play_restrict (P := fun c _ m => readable c m) s.script (readable_move s) p w

/-- A part that has nothing to do with the lock. -/
theorem Arrives.part {x : Action α} {a : Except Failure α} {holds : Bool}
    {k : Except Failure α → Prog (Except Failure Output)} (hx : s.Ends x w a w₁)
    (ignores : x.run.Uses storageLock.Ignores) (rest : ∀ w', w₁.Alike w' → Arrives (k a) holds w' R) :
    Arrives (x.run >>= k) holds w R := by
  obtain ⟨w₂, hplay, h₂⟩ := hx
  have hexec := (readableScript s).exec x.run w
  rw [play_readableScript, hplay] at hexec
  obtain ⟨q, holds', w', hR, steps⟩ := rest w₂ h₂
  exact ⟨q, holds', w', hR, fun P => (Pool.Steps.of_exec hexec ignores Pool.empty 0 holds k).trans (steps P)⟩

theorem Arrives.acquire (s : Scenario) {op : Op} {k : Bool → Prog (Except Failure Output)}
    (rest : ∀ w', w.Alike w' → Arrives (k true) true w' R) : Arrives (.call (.flock op) k) false w R := by
  have at_ : alone (.call (.flock op) k) false 0 = some ⟨.call (.flock op) k, false⟩ := Function.update_self ..
  have idle : Pool.Free (alone (.call (.flock op) k) false) := by
    intro j p hj
    rcases update_cases hj with ⟨-, rfl⟩ | ⟨-, hj⟩
    · rfl
    · cases hj
  have granted : storageLock.Grants (.flock op) ((planned reference readable).answer (.flock op) w
      ((readableScript s).move (.flock op) w)) := rfl
  obtain ⟨q, holds', w', hR, steps⟩ := rest _ (.refl w)
  refine ⟨q, holds', w', hR, fun P => .head ?_ (steps P)⟩
  have step := Pool.Step.acquire (P := P) (G := fun _ _ => True) at_ ((readableScript s).admitted _ w) granted
    idle trivial
  rwa [Function.update_idem] at step

theorem Arrives.release (s : Scenario) {op : Op} {r : Except Failure op.Out}
    {k : Unit → Prog (Except Failure Output)}
    (rest : ∀ w', (w.report op r).Alike w' → Arrives (k ()) false w' R) :
    Arrives (.call (.unlock op r) k) true w R := by
  have at_ : alone (.call (.unlock op r) k) true 0 = some ⟨.call (.unlock op r) k, true⟩ :=
    Function.update_self ..
  have releases : storageLock.Releases (.unlock op r) := trivial
  obtain ⟨q, holds', w', hR, steps⟩ := rest _ (.refl _)
  refine ⟨q, holds', w', hR, fun P => .head ?_ (steps P)⟩
  have step := Pool.Step.release (P := P) (G := fun _ _ => True) at_ ((readableScript s).admitted _ w) releases
  rwa [Function.update_idem] at step

/-- A whole operation, given what it does with the lock and what it comes to. -/
theorem Arrives.run {op : Op} {k : Except Failure op.Out → Prog (Except Failure Output)}
    (ready : w.storageMode = none ∨ (w.files identityPath).isSome = true)
    (hlocked : ∀ w', ({ w with storageMode := some privateMode } : World).Alike w' →
      ∃ r w₁, s.Ends (runLocked reference config op) w' r w₁ ∧
        ∀ w'', (w₁.report op r).Alike w'' → Arrives ((orFail id r).run >>= k) false w'' R) :
    Arrives ((MatterTimeCtl.run reference config op).run >>= k) false w R := by
  have opens : ∀ w, s.Ends (ask (.file (.openTruncate lockPath)) >>=
      orFail fun e => .context "create storage lock file" (.io e)) w (.ok ()) w := fun w =>
    ⟨_, rfl, ⟨(AgreeOn.refl _ _).update_scratch not_isState_lock _, rfl⟩, id⟩
  unfold MatterTimeCtl.run lockStorage
  simp only [bind_assoc]
  rw [Effect.run_bind, Program.bind_assoc]
  refine Arrives.part (ends_prepareStorageDir (s := s) ready)
    (ignores_outside (outside_prepareStorageDir config)) fun w₂ h₂ => ?_
  rw [← bind_assoc, continueWith_ok, Effect.run_bind, Program.bind_assoc]
  refine Arrives.part (opens w₂) (ignores_outside (uses_run_bind (uses_ask rfl) fun _ => uses_orFail _ _))
    fun w₃ h₃ => ?_
  refine Arrives.acquire s fun w₄ h₄ => ?_
  change Arrives ((attempt (runLocked reference config op) >>= fun r =>
    ask (.unlock op r) >>= fun _ => orFail id r).run >>= k) true w₄ R
  rw [run_attempt_bind, Program.bind_assoc]
  obtain ⟨r, w₁, ends, rest⟩ := hlocked w₄ (h₂.trans (h₃.trans h₄))
  refine Arrives.part ends (ignores_locked (locked_runLocked reference config op)) fun w₅ h₅ => ?_
  exact Arrives.release s fun w₆ h₆ => rest w₆ ((h₅.report op r).trans h₆)

/-! ### Commissions -/

/-- A commission that joins the next device of a fleet. -/
theorem arrives_commission {loaded : List Fabric} {i : Identity} {ids : List NodeId} {w₀ : World}
    (ready : w.storageMode = none ∨ (w.files identityPath).isSome = true)
    (load : reference.loadFabrics (blobsOf w.files) = .ok loaded)
    (ensure : ∀ w', w.Alike w' → works.Ends (ensureFabric reference config loaded) w'
      (.ok ([Scenario.fabric], Scenario.fabric.fabIdx, i)) w₀)
    (key : i.rcacPrivkeyHex = hexEncode Reference.keyOne.toList) (fleet : Fleet i ids w₀) :
    Arrives (runCommand reference config (.commission onboarding)).run false w fun _ _ w' =>
      Fleet i.counted (i.nextDeviceNodeId :: ids) w' := by
  have private_ : w.Alike { w with storageMode := some privateMode } := ⟨⟨.refl _ _, rfl⟩, fun _ => rfl⟩
  change Arrives (MatterTimeCtl.run reference config (.commission onboarding) >>= _).run false w _
  rw [Effect.run_bind]
  refine Arrives.run (s := works) ready fun w₁ h₁ => ?_
  have load' : reference.loadFabrics (blobsOf w₁.files) = .ok loaded := by rwa [h₁.same.blobs]
  obtain ⟨w₂, hsetUp, h₂⟩ := ends_setUp (s := works) (c := config) load' fun w' hw' =>
    ensure w' (private_.trans (h₁.trans hw'))
  obtain ⟨outcome, record, ends⟩ := ends_commission key w₂
  refine ⟨_, _, ?_, fun w₃ h₃ => .here (((fleet.alike h₂).commissioned record
    (.commission onboarding) (.ok outcome)).alike h₃)⟩
  rw [runLocked_eq]
  exact Ends.bind_eq hsetUp ends

/-- A new process is started alone, goes on to some point, and is stopped there. -/
theorem Arrives.interleaved {struck : NodeId → Prop} {p : Prog (Except Failure Output)}
    (h : Arrives p false w R) (hp : Striking reference struck p) :
    ∃ q holds w', R q holds w' ∧ Interleaved reference readable struck (Pool.empty, w) (Pool.empty, w') := by
  obtain ⟨q, holds, w', hR, steps⟩ := h
  refine ⟨q, holds, w', hR, .head (.start (i := 0) rfl hp) ((steps _).tail ?_)⟩
  have stopped : Pool.Step (planned reference readable) storageLock (Striking reference struck) (fun _ _ => True)
      (alone q holds, w') _ := .stop 0
  rwa [Function.update_idem, show Function.update Pool.empty 0 none = Pool.empty from
    Function.update_eq_self 0 _] at stopped

/-- **Two devices are commissioned**, one after the other. -/
theorem two_commissions (struck : NodeId → Prop) : ∃ w w' : World,
    Interleaved reference readable struck (Pool.empty, freshHost) (Pool.empty, w) ∧
      Interleaved reference readable struck (Pool.empty, w) (Pool.empty, w') ∧
      Fleet afterOne [1] w ∧ Fleet afterTwo [2, 1] w' := by
  have hp : Striking reference struck (runCommand reference config (.commission onboarding)).run :=
    ⟨config, .commission onboarding, trivial, rfl⟩
  obtain ⟨-, -, w, fleet, steps⟩ := (arrives_commission (.inl rfl) (loads_nothing fun _ => rfl)
    (fun _ => ends_ensureFabric_first) rfl fleet_first).interleaved hp
  obtain ⟨-, -, w', fleet', steps'⟩ := (arrives_commission (.inr (by rw [fleet.established.identity]; rfl))
    fleet.established.loads (fun _ => fleet.established.ends_ensureFabric) rfl fleet).interleaved hp
  exact ⟨w, w', steps, steps', fleet, fleet'⟩

end Scenario

end MatterTimeCtl
