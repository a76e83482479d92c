/-
# MatterTimeCtl.Storage.Interleaving — overlapping invocations on one storage directory.

An invocation picks its targets from devices.json before it has the storage lock, and writes to it only
under the lock.  Nothing an invocation does before it has the lock concerns the state files, so a holder
does not notice the others (`storage_discipline`), and what is left to show is what one invocation does
with the lock.  A sync writes a record for every target it was started with, whether or not the target
still has one by the time the lock is granted.
-/
import MatterTimeCtl.Scenario.Storage
import MatterTimeCtl.Effect.Pool

namespace MatterTimeCtl

open Files Effect

/-! ## The lock, and what goes on beside it -/

/-- The storage lock: granted by `flock`, given back when the operation has returned. -/
def storageLock : Lock Call Call.Answer where
  Grants c a := match c, a with
    | .flock _, granted => granted = true
    | _, _ => False
  Releases c := match c with
    | .unlock _ _ => True
    | _ => False

/-- What an invocation calls while it does not hold the lock. -/
def Unlocked (c : Call) : Prop := Outside c ∨ ∃ op, c = .flock op

/-- The worlds differ in nothing that a holder of the lock looks at: at most in the lock file, the
directories, the log, the devices, and the time. -/
structure Near (w w' : World) : Prop where
  files : AgreeOn (· ≠ lockPath) w.files w'.files
  history : w'.history = w.history
  clock : w.clock ≤ w'.clock

section Discipline

variable {ext : Externals} {plan : (c : Call) → c.Move → Prop} {w w' : World}

theorem Near.same (h : Near w w') : w.Same w' :=
  ⟨fun p hp => h.files p (by
    rintro rfl
    exact not_isState_lock hp), h.history⟩

theorem near_dirEffect (w : World) (c : DirCall) (choice : c.Choice) {later : Timestamp}
    (h : w.clock ≤ later) : Near w { dirEffect w c choice with clock := later } := by
  unfold dirEffect
  split <;> exact ⟨.refl _ _, rfl, h⟩

/-- Without the lock, a call leads to a near world. -/
theorem unlocked_next {c : Call} (hc : Unlocked c) {m : c.Move}
    (hm : (planned ext plan).admits c w m) : Near w ((planned ext plan).next c w m) := by
  have hclock : w.clock ≤ m.later := hm.1.1
  rcases hc with hc | ⟨op, rfl⟩
  · obtain ⟨later, choice⟩ := m
    unfold Outside at hc
    split at hc
    · cases choice <;> exact ⟨.refl _ _, rfl, hclock⟩
    · cases choice <;> exact ⟨.refl _ _, rfl, hclock⟩
    · subst hc
      cases choice with
      | succeed => exact ⟨(AgreeOn.refl _ _).update_scratch (by simp) _, rfl, hclock⟩
      | fail n => exact ⟨.refl _ _, rfl, hclock⟩
    · exact near_dirEffect w _ choice hclock
    · exact ⟨.refl _ _, rfl, hclock⟩
    · exact ⟨.refl _ _, rfl, hclock⟩
    · exact ⟨.refl _ _, rfl, hclock⟩
    · exact hc.elim
  · exact ⟨.refl _ _, rfl, hclock⟩

theorem Locked.on {c : FileCall Path} (h : Locked (.file c)) : c.On (· ≠ lockPath) := by
  cases c with
  | rename source target => exact ⟨h.1, h.2.1⟩
  | removeFile p => exact ne_lockPath_of_matter h
  | _ => exact h

theorem Lawful.earlier {later : Timestamp} {c : Call} {choice : c.Choice} (hc : Locked c)
    (h : w.clock ≤ w'.clock) (hlaw : Lawful ext w' later c choice) : Lawful ext w later c choice := by
  have after := Timestamp.afterSecs_mono h
  cases c with
  | dir c =>
      cases c with
      | createAll d => trivial
      | _ => exact hc.elim
  | crypto c => cases c <;> cases choice <;> exact hlaw
  | sleep secs => exact (after secs).trans hlaw
  | timed secs future =>
      exact ⟨fun at_ hat => ⟨h.trans (hlaw.1 at_ hat).1, (hlaw.1 at_ hat).2⟩,
        fun hnone => (after secs).trans (hlaw.2.1 hnone), hlaw.2.2⟩
  | wire nodeId r =>
      exact ⟨fun at_ hat => ⟨h.trans (hlaw.1 at_ hat).1, (hlaw.1 at_ hat).2⟩, hlaw.2⟩
  | _ => trivial

/-- With the lock, a call is answered in a near world as it would have been before. -/
theorem answer_near {c : Call} (hc : Locked c) (h : Near w w') (m : c.Move) :
    (planned ext plan).answer c w m = (planned ext plan).answer c w' m := by
  obtain ⟨later, choice⟩ := m
  cases c with
  | file c => exact (h.files.answer hc.on choice).symm
  | dir c =>
      cases c with
      | createAll d => rfl
      | _ => exact hc.elim
  | loadPersist =>
      cases choice with
      | some fault => rfl
      | none =>
          show ext.loadFabrics (blobsOf w.files) = ext.loadFabrics (blobsOf w'.files)
          rw [h.same.blobs]
  | _ => rfl

theorem afterFile_near {c : FileCall Path} (hc : Locked (.file c)) (h : Near w w') :
    w'.history.afterFile ext w'.files c = w.history.afterFile ext w.files c := by
  have hon := hc.on
  cases c with
  | rename source target => simp only [History.afterFile, h.history, h.files source hon.1]
  | removeFile p => simp only [History.afterFile, h.history, h.files p hon]
  | _ => exact h.history

/-- With the lock, a call takes near worlds to near worlds. -/
theorem next_near {c : Call} (hc : Locked c) (h : Near w w') (m : c.Move) :
    Near ((planned ext plan).next c w m) ((planned ext plan).next c w' m) := by
  obtain ⟨later, choice⟩ := m
  -- what a call does to the files and the history is decided by these, the lock file aside
  cases c with
  | file c =>
      cases choice with
      | succeed => exact ⟨h.files.next hc.on .succeed, afterFile_near hc h, le_rfl⟩
      | fail n => exact ⟨h.files.next hc.on (.fail n), h.history, le_rfl⟩
  | dir c =>
      cases c with
      | createAll d => cases d <;> cases choice <;> exact ⟨h.files, h.history, le_rfl⟩
      | _ => exact hc.elim
  | timed secs future =>
      cases future with
      | initiate nodeId => exact ⟨h.files, h.history, le_rfl⟩
      | commission peer passcode nodeId =>
          refine ⟨h.files, ?_, le_rfl⟩
          show (w'.assign ext nodeId).history = (w.assign ext nodeId).history
          simp only [World.assign, h.same.registry, h.history]
      | completeViaCase peer fabric nodeId =>
          obtain ⟨processed, reply⟩ := choice
          cases processed with
          | none => exact ⟨h.files, h.history, le_rfl⟩
          | some at_ =>
              refine ⟨h.files, ?_, le_rfl⟩
              show (w'.join nodeId fabric).history = (w.join nodeId fabric).history
              simp only [World.join, h.history]
  | wire nodeId r =>
      obtain ⟨processed, reply⟩ := choice
      cases processed <;> exact ⟨h.files, h.history, le_rfl⟩
  | flock op | unlock op result => exact hc.elim
  | _ => exact ⟨h.files, h.history, le_rfl⟩

/-- Giving the lock back, too, goes alike in near worlds. -/
theorem report_near (h : Near w w') (op : Op) (result : Except Failure op.Out) :
    Near (w.report op result) (w'.report op result) := by
  refine ⟨h.files, ?_, h.clock⟩
  simp only [World.report, h.history]

/-- **The discipline of the storage lock**, for every property of the state files and the history. -/
theorem storage_discipline {I : World → Prop} (stable : Stable I) :
    Discipline (planned ext plan) storageLock I Unlocked Locked Near where
  outside hc hm := unlocked_next hc hm
  keeps h hI := stable h.same hI
  simulates {c w w' m} hc h hm := by
    obtain ⟨⟨hlater, hlaw⟩, hplan⟩ := hm
    have hclock : w.clock ≤ m.later := h.clock.trans hlater
    rcases hc with hc | hc
    · exact ⟨m, ⟨⟨hclock, hlaw.earlier hc h.clock⟩, hplan⟩, answer_near hc h m, next_near hc h m⟩
    · cases c with
      | unlock op result =>
          exact ⟨m, ⟨⟨hclock, trivial⟩, hplan⟩, rfl,
            ⟨(report_near h op result).files, (report_near h op result).history, le_rfl⟩⟩
      | _ => exact hc.elim
  mine {c} hc := by
    rcases hc with hc | ⟨op, rfl⟩
    · cases c with
      | unlock op result => exact hc.elim
      | _ => exact id
    · exact id
  distinct {c} hc := by
    cases c with
    | unlock op result => exact hc.elim
    | _ => exact id

end Discipline

/-! ## Nodes that are gone -/

/-- **The invariant**: no node that was reported decommissioned, and not assigned since, has a record. -/
def GoneStay (ext : Externals) (w : World) : Prop := ∀ n ∈ w.history.gone, Unregistered ext n w

section Gone

variable {ext : Externals} {plan : (c : Call) → c.Move → Prop} {config : Config} {w w₁ : World}
  {fabrics : List Fabric}

/-- None of these nodes is gone. -/
def AllHere (targets : List NodeId) (w : World) : Prop := ∀ n ∈ targets, n ∉ w.history.gone

/-- The registry on disk is the same, and so is who is gone. -/
structure SameNodes (ext : Externals) (w w₁ : World) : Prop where
  registry : w₁.registry ext = w.registry ext
  gone : w₁.history.gone = w.history.gone

theorem World.SameOn.nodes (h : w.Same w₁) : SameNodes ext w w₁ :=
  ⟨h.registry, congrArg History.gone h.history⟩

/-- Nothing new in the registry, and nobody new who is gone. -/
theorem GoneStay.transfer (hw : GoneStay ext w) (hreg : w₁.registry ext = w.registry ext)
    (hgone : ∀ n ∈ w₁.history.gone, n ∈ w.history.gone) : GoneStay ext w₁ := by
  intro n hn
  rw [Unregistered, hreg]
  exact hw n (hgone n hn)

theorem GoneStay.same (hw : GoneStay ext w) (h : SameNodes ext w w₁) : GoneStay ext w₁ :=
  hw.transfer h.registry fun n hn => by rwa [h.gone] at hn

theorem AllHere.same {targets : List NodeId} (hw : AllHere targets w)
    (h : w₁.history.gone = w.history.gone) : AllHere targets w₁ := by
  intro n hn
  rw [h]
  exact hw n hn

theorem stable_goneStay : Stable (GoneStay ext) := fun _ _ hs h => h.same hs.nodes

theorem stable_allHere (targets : List NodeId) :
    Stable fun w => GoneStay ext w ∧ AllHere targets w := fun _ _ hs h =>
  ⟨h.1.same hs.nodes, h.2.same (congrArg History.gone hs.history)⟩

theorem gone_put (w : World) (p : Path) (bytes : ByteArray) :
    (w.put p bytes).history.gone = w.history.gone := by
  unfold World.put
  dsimp only
  split <;> rfl

/-- `ensureFabric` touches neither the registry nor who is gone. -/
theorem EnsureSeen.sameNodes (h : EnsureSeen ext plan config fabrics w w₁) : SameNodes ext w w₁ := by
  have cleared : ∀ {rest : List Fabric} {w₀ : World}, Cleared ext plan fabrics w rest w₀ →
      SameNodes ext w w₀ := by
    rintro rest w₀ (_ | _)
    · exact ⟨rfl, rfl⟩
    · exact ⟨World.registry_remove w _, rfl⟩
  have install : ∀ {w₀ : World}, SameNodes ext w w₀ → ∀ f, SameNodes ext w (w₀.install ext f) :=
    fun h f => ⟨(World.registry_install _ f).trans h.registry, (gone_put _ _ _).trans h.gone⟩
  cases h with
  | untouched => exact ⟨rfl, rfl⟩
  | relabelled _ _ _ => exact install ⟨rfl, rfl⟩ _
  | cleared h => exact cleared h
  | installed h _ => exact install (cleared h.cleared) _
  | complete h _ =>
      have h₁ := install (cleared h.cleared)
      exact ⟨(World.registry_put_of_ne _ devices_ne_identity _).trans (h₁ _).registry,
        (gone_put _ _ _).trans (h₁ _).gone⟩

/-- A record for a node that is not gone. -/
theorem GoneStay.inserted {nodeId : NodeId} (hw : GoneStay ext w) (here : nodeId ∉ w.history.gone)
    (changed : RegistryChanged ext plan w (Devices.Inserted nodeId) w₁) :
    GoneStay ext w₁ ∧ w₁.history.gone = w.history.gone := by
  obtain ⟨raw, devices, read, ⟨record, rfl⟩, rfl⟩ := changed
  have hgone := gone_put w devicesPath (jsonFile ext.devicesJson
    { nodes := (registryOf ext raw).nodes.insert (nodeKey nodeId) record })
  refine ⟨fun n hn => ?_, hgone⟩
  rw [hgone] at hn
  rw [Unregistered, World.registry_put, Std.ExtTreeMap.mem_insert]
  rintro (heq | hmem)
  · have hkey := Std.LawfulEqCmp.eq_of_compare heq
    rw [nodeKey_injective hkey] at here
    exact here hn
  · exact hw n hn (read.registry_subset hmem)

theorem GoneStay.erased {nodeId : NodeId} (hw : GoneStay ext w)
    (changed : RegistryChanged ext plan w (Devices.Erased nodeId) w₁) : GoneStay ext w₁ := by
  have hgone : w₁.history.gone = w.history.gone := by
    obtain ⟨raw, devices, -, -, rfl⟩ := changed
    exact gone_put _ _ _
  intro n hn
  rw [hgone] at hn
  exact Unregistered.erased (.inl (hw n hn)) changed

/-- A commissioning takes its node back before it writes a record for it. -/
theorem GoneStay.commission {ctx : Ctx} (hw : GoneStay ext w)
    (h : CommissionSeen ext plan ctx w w₁) : GoneStay ext w₁ := by
  have assigned : GoneStay ext (w.assign ext ctx.identity.nextDeviceNodeId) :=
    hw.transfer rfl fun n hn => List.mem_of_mem_filter hn
  have joined : ∀ f, GoneStay ext (w.enroll ext ctx.identity.nextDeviceNodeId f) := fun f =>
    assigned.transfer rfl fun n hn => hn
  have here : ∀ f, ctx.identity.nextDeviceNodeId ∉
      (w.enroll ext ctx.identity.nextDeviceNodeId f).history.gone := by
    intro f hmem
    have hne := List.of_mem_filter hmem
    simp at hne
  cases h with
  | untouched => exact hw
  | assigned => exact assigned
  | joined _ => exact joined _
  | recorded _ changed => exact ((joined _).inserted (here _) changed).1
  | counted _ changed =>
      refine ((joined _).inserted (here _) changed).1.transfer
        (World.registry_put_of_ne _ devices_ne_identity _) fun n hn => ?_
      rwa [gone_put] at hn

/-! ## What each operation does with the lock -/

theorem keeps_commission (onboarding : Onboarding) :
    RunKeeps ext plan config (GoneStay ext) (GoneStay ext) (.commission onboarding)
      fun _ _ => True where
  stable := stable_goneStay
  stable' := stable_goneStay
  imp _ h := h
  ensure hw _ seen := hw.same seen.sameNodes
  operate {_ w w₁ _ _ _ w'} hw _ hok hs := by
    have hw' := (hw.same hok.seen.sameNodes).same hs.nodes
    refine (commissionOp_spec onboarding w').mono ?_ fun _ _ _ _ => trivial
    rintro w₃ ⟨w₂, seen, h⟩
    exact (hw'.commission seen).same h.nodes
  error _ _ := trivial
  report _ _ hw _ := hw

/-- A sync only writes records of its targets, so it brings nobody back when none of them is gone. -/
theorem keeps_sync (targets : List NodeId) (manualTime : Option MatterMicros) :
    RunKeeps ext plan config (fun w => GoneStay ext w ∧ AllHere targets w) (GoneStay ext)
      (.sync targets manualTime) fun _ _ => True where
  stable := stable_allHere targets
  stable' := stable_goneStay
  imp _ h := h.1
  ensure hw _ seen := ⟨hw.1.same seen.sameNodes, hw.2.same seen.sameNodes.gone⟩
  operate {_ w w₁ _ _ _ w'} hw _ hok hs := by
    have survives : SurvivesChange ext plan (fun w => GoneStay ext w ∧ AllHere targets w) targets
        Devices.Inserted := by
      intro n hn w w₁ hw changed
      obtain ⟨stay, hgone⟩ := hw.1.inserted (hw.2 n hn) changed
      exact ⟨stay, hw.2.same hgone⟩
    have hw' := stable_allHere targets hs
      ⟨hw.1.same hok.seen.sameNodes, hw.2.same hok.seen.sameNodes.gone⟩
    exact (syncOp_keeps (stable_allHere targets) manualTime survives hw').mono (fun _ h => h.1)
      fun _ _ _ _ => trivial
  error _ _ := trivial
  report _ _ hw _ := hw

/-- The nodes that a decommission reports as removed have no record. -/
theorem keeps_decommission (targets : List NodeId) :
    RunKeeps ext plan config (GoneStay ext) (GoneStay ext) (.decommission targets)
      fun r w => ∀ n ∈ reportedGone (.decommission targets) r, Unregistered ext n w where
  stable := stable_goneStay
  stable' := stable_goneStay
  imp _ h := h
  ensure hw _ seen := hw.same seen.sameNodes
  operate {_ w w₁ _ _ _ w'} hw _ hok hs := by
    have hw' := (hw.same hok.seen.sameNodes).same hs.nodes
    have survives : SurvivesChange ext plan (GoneStay ext) targets Devices.Erased :=
      fun n _ w w₁ hw changed => hw.erased changed
    refine (decommissionOp_keeps stable_goneStay survives hw').mono (fun _ h => h)
      fun r w₂ _ ⟨_, removed⟩ n hn => ?_
    cases r with
    | error e => exact absurd hn List.not_mem_nil
    | ok outcomes =>
        obtain ⟨outcome, hmem, rfl⟩ := List.mem_map.mp hn
        obtain ⟨hmem, hsuccess⟩ := List.mem_filter.mp hmem
        exact removed outcomes rfl outcome hmem hsuccess
  error _ _ n hn := absurd hn List.not_mem_nil
  report r w hw removed n hn := by
    rcases List.mem_append.mp hn with hn | hn
    · exact removed n hn
    · exact hw n hn

theorem keeps_inspect (targets : List NodeId) :
    RunKeeps ext plan config (GoneStay ext) (GoneStay ext) (.inspect targets) fun _ _ => True where
  stable := stable_goneStay
  stable' := stable_goneStay
  imp _ h := h
  ensure hw _ seen := hw.same seen.sameNodes
  operate hw _ hok hs :=
    (stable_goneStay.talk (talk_inspect ext _ targets)
      ((hw.same hok.seen.sameNodes).same hs.nodes)).mono (fun _ h => h) fun _ _ _ _ => trivial
  error _ _ := trivial
  report _ _ hw _ := hw

end Gone

/-! ## Interleavings -/

/-- The invocations of the tool, under any configuration. -/
def Invocations (ext : Externals) (p : Prog (Except Failure Output)) : Prop :=
  ∃ config command, p = (runCommand ext config command).run

/-- The lock is granted to a sync while none of its targets is gone. -/
def TargetsHere : Call → World → Prop
  | .flock (.sync targets _), w => AllHere targets w
  | _, _ => True

section Interleavings

variable {ext : Externals} {plan : (c : Call) → c.Move → Prop} {config : Config} {α : Type}

/-- What an invocation does without the lock, and with it. -/
abbrev Minds (ext : Externals) (plan : (c : Call) → c.Move → Prop) (p : Prog α) : Prop :=
  Waits (planned ext plan) storageLock (GoneStay ext) Unlocked Locked TargetsHere p

theorem minds_outside {p : Prog α} (hp : p.Uses Outside) : Minds ext plan p := by
  refine Waits.of_uses hp fun c hc => ⟨.inl hc, fun a => ?_⟩
  cases c with
  | flock op => exact hc.elim
  | _ => exact id

theorem minds_looks {p : Prog α} (hp : p.Uses Looks) : Minds ext plan p :=
  minds_outside (hp.mono fun _ => Looks.outside)

theorem minds_pure (a : α) : Minds ext plan (pure a : Action α).run := .done _

/-- One operation, from claiming the directory to giving the lock back. -/
theorem minds_run {op : Op} {J : World → Prop} {Q : Except Failure op.Out → World → Prop}
    (keeps : RunKeeps ext plan config J (GoneStay ext) op Q)
    (here : ∀ w, GoneStay ext w → TargetsHere (.flock op) w → J w) :
    Minds ext plan (run ext config op).run := by
  unfold run
  refine Waits.run_bind (minds_outside (outside_prepareStorageDir config)) fun _ => ?_
  unfold lockStorage
  simp only [bind_assoc]
  refine Waits.run_bind (minds_outside (uses_ask rfl)) fun opened => ?_
  refine Waits.run_bind (minds_outside (uses_orFail _ _)) fun _ => ?_
  rw [Effect.run_bind, run_ask, Program.call_bind]
  refine .call (.inr ⟨op, rfl⟩) (fun granted refused => ?_) fun w m hm granted hw guard => ?_
  · obtain rfl : granted = false := by simpa [storageLock] using refused
    exact .done _
  · have hanswer : (planned ext plan).answer (.flock op) w m = true := granted
    rw [hanswer]
    -- what is left is the operation and the release
    change Holds _ _ _ _ _ _ (attempt (runLocked ext config op) >>= fun result => do
      ask (.unlock op result)
      orFail id result).run _
    rw [run_attempt_bind]
    have hnext : w.Same ((planned ext plan).next (.flock op) w m) := quiet_next (by trivial) w m
    refine Holds.of_safe (runLocked_safe keeps (keeps.stable hnext (here w hw guard)))
      (locked_runLocked ext config op) fun result w₁ hw₁ hQ => ?_
    rw [Effect.run_bind, run_ask, Program.call_bind]
    refine .release trivial (fun m _ => ?_) fun _ => ?_
    · exact stable_goneStay (same_clock (.refl (w₁.report op result)) m.later)
        (keeps.report result w₁ hw₁ hQ)
    · exact minds_outside (uses_orFail _ _)

/-- **Every invocation** does its part, whatever its options. -/
theorem minds_invocation {p : Prog (Except Failure Output)} (hp : Invocations ext p) :
    Minds ext plan p := by
  obtain ⟨config, command, rfl⟩ := hp
  cases command with
  | status filter => exact minds_looks (looks_status ext config filter)
  | sync target time =>
      refine Waits.run_bind (minds_looks (looks_manualTimeOf ext config time)) fun manualTime => ?_
      refine Waits.run_bind (minds_outside (uses_ask trivial)) fun ntp => ?_
      split
      · exact Waits.run_bind (minds_outside (uses_ask trivial)) fun _ => minds_pure _
      · refine Waits.run_bind (minds_looks (looks_resolve ext target)) fun targets => ?_
        exact Waits.run_bind (minds_run (keeps_sync targets manualTime) fun _ hw here => ⟨hw, here⟩)
          fun _ => minds_pure _
  | commission onboarding =>
      exact Waits.run_bind (minds_run (keeps_commission onboarding) fun _ hw _ => hw)
        fun _ => minds_pure _
  | decommission target =>
      refine Waits.run_bind (minds_looks (looks_resolve ext target)) fun targets => ?_
      refine Waits.run_bind (minds_run (keeps_decommission targets) fun _ hw _ => hw) fun _ => ?_
      exact Waits.run_bind (minds_looks (looks_loadOrDefault ext _)) fun _ => minds_pure _
  | inspect target =>
      refine Waits.run_bind (minds_looks (looks_resolveOrEmpty ext target)) fun targets => ?_
      split
      · exact minds_pure _
      · exact Waits.run_bind (minds_run (keeps_inspect targets) fun _ hw _ => hw) fun _ => minds_pure _

/-- **A decommissioned node stays gone, as long as every sync is granted the lock before one of its
targets is decommissioned.**  In every interleaving of any number of invocations, each of them started
and stopped at any moment and with any faults, in which this is so whenever a sync is granted the lock:
no node that was reported decommissioned, and not assigned since, has a record in devices.json. -/
theorem decommissioned_stay_gone (ext : Externals) {plan : (c : Call) → c.Move → Prop}
    {ps : Pool Call Call.Answer (Except Failure Output)} {w₀ w : World}
    (nobody : w₀.history.gone = [])
    (steps : Pool.Steps (planned ext plan) storageLock (Invocations ext) TargetsHere
      (Pool.empty, w₀) (ps, w)) :
    ∀ n ∈ w.history.gone, nodeKey n ∉ (w.registry ext).nodes := by
  refine Pool.invariant (storage_discipline stable_goneStay) (fun p hp => minds_invocation hp) steps ?_
  intro n hn
  rw [nobody] at hn
  exact absurd hn List.not_mem_nil

end Interleavings

/-! ## A sync that comes late -/

section Goes

open Scenario

variable {s : Scenario} {P : Prog (Except Failure Output) → Prop} {G : Call → World → Prop} {i : Nat} {w : World}

/-- A process of the tool, and what it is at. -/
abbrev Invocation := Process Call Call.Answer (Except Failure Output)

/-- While no other process holds the lock, process `i` goes on to a point that satisfies `R`. -/
def Goes (P : Prog (Except Failure Output) → Prop) (G : Call → World → Prop) (i : Nat) (p : Invocation) (w : World)
    (R : Invocation → World → Prop) : Prop :=
  ∀ ps : Pool Call Call.Answer (Except Failure Output),
    (∀ j p, j ≠ i → ps j = some p → p.holds = false) →
    ∃ q w', R q w' ∧ Pool.Steps anything storageLock P G
      (Function.update ps i (some p), w) (Function.update ps i (some q), w')

variable {R : Invocation → World → Prop}

theorem Goes.here {p : Invocation} (h : R p w) : Goes P G i p w R := fun _ _ => ⟨p, w, h, .refl⟩

/-- A part that has nothing to do with the lock. -/
theorem Goes.part {α : Type} {x : Action α} {a : Except Failure α} {w₁ : World} {holds : Bool}
    {k : Except Failure α → Prog (Except Failure Output)} (hx : s.Ends x w a w₁)
    (ignores : x.run.Uses storageLock.Ignores)
    (rest : ∀ w', w₁.Alike w' → Goes P G i ⟨k a, holds⟩ w' R) :
    Goes P G i ⟨x.run >>= k, holds⟩ w R := by
  intro ps free
  obtain ⟨w₂, hplay, h₂⟩ := hx
  have hexec := s.anyPlan.exec x.run w
  rw [play_anyPlan, hplay] at hexec
  obtain ⟨q, w', hR, steps⟩ := rest w₂ h₂ ps free
  exact ⟨q, w', hR, (Pool.Steps.of_exec hexec ignores ps i holds k).trans steps⟩

theorem Goes.acquire (s : Scenario) {op : Op} {k : Bool → Prog (Except Failure Output)}
    (guard : G (.flock op) w) (rest : ∀ w', w.Alike w' → Goes P G i ⟨k true, true⟩ w' R) :
    Goes P G i ⟨.call (.flock op) k, false⟩ w R := by
  intro ps free
  have at_ : Function.update ps i (some ⟨.call (.flock op) k, false⟩) i =
      some ⟨.call (.flock op) k, false⟩ := Function.update_self ..
  have idle : Pool.Free (Function.update ps i (some ⟨.call (.flock op) k, false⟩)) := by
    intro j p hj
    by_cases h : j = i
    · subst h
      rw [Function.update_self] at hj
      exact (Option.some.inj hj) ▸ rfl
    · rw [Function.update_of_ne h] at hj
      exact free j p h hj
  have granted : storageLock.Grants (.flock op)
      (anything.answer (.flock op) w (s.anyPlan.move (.flock op) w)) := rfl
  have step := Pool.Step.acquire (P := P) at_ (s.anyPlan.admitted _ w) granted idle guard
  rw [Function.update_idem] at step
  obtain ⟨q, w', hR, steps⟩ := rest _ (.refl w) ps free
  exact ⟨q, w', hR, .head step steps⟩

theorem Goes.release (s : Scenario) {op : Op} {r : Except Failure op.Out}
    {k : Unit → Prog (Except Failure Output)}
    (rest : ∀ w', (w.report op r).Alike w' → Goes P G i ⟨k (), false⟩ w' R) :
    Goes P G i ⟨.call (.unlock op r) k, true⟩ w R := by
  intro ps free
  have at_ : Function.update ps i (some ⟨.call (.unlock op r) k, true⟩) i =
      some ⟨.call (.unlock op r) k, true⟩ := Function.update_self ..
  have releases : storageLock.Releases (.unlock op r) := trivial
  have step := Pool.Step.release (P := P) (G := G) at_ (s.anyPlan.admitted _ w) releases
  rw [Function.update_idem] at step
  obtain ⟨q, w', hR, steps⟩ := rest _ (.refl _) ps free
  exact ⟨q, w', hR, .head step steps⟩

theorem ignores_outside {α : Type} {p : Prog α} (hp : p.Uses Outside) :
    p.Uses storageLock.Ignores := by
  refine hp.mono fun c hc => ?_
  cases c with
  | flock op | unlock op r => exact hc.elim
  | _ => exact ⟨fun _ => id, id⟩

theorem ignores_looks {α : Type} {p : Prog α} (hp : p.Uses Looks) : p.Uses storageLock.Ignores :=
  ignores_outside (hp.mono fun _ => Looks.outside)

theorem ignores_locked {α : Type} {p : Prog α} (hp : p.Uses Locked) : p.Uses storageLock.Ignores := by
  refine hp.mono fun c hc => ?_
  cases c with
  | flock op | unlock op r => exact hc.elim
  | _ => exact ⟨fun _ => id, id⟩

theorem locked_setUp (ext : Externals) (config : Config) : (setUp ext config).run.Uses Locked := by
  have h := locked_runLocked ext config (.inspect [])
  rw [runLocked_eq, Effect.run_bind] at h
  exact h.left

/-- A process that claims the directory and takes the lock. -/
theorem goes_locked (s : Scenario) {op : Op} {k : Except Failure op.Out → Prog (Except Failure Output)}
    (ready : (w.files identityPath).isSome = true) (guard : ∀ w', w.Alike w' → G (.flock op) w')
    (rest : ∀ w', w.Alike w' → Goes P G i ⟨(runLocked reference config op).run >>= fun r =>
      .call (.unlock op r) fun _ => (orFail id r).run >>= k, true⟩ w' R) :
    Goes P G i ⟨(run reference config op).run >>= k, false⟩ w R := by
  have private_ : w.Alike { w with storageMode := some privateMode } := ⟨⟨.refl _ _, rfl⟩, fun _ => rfl⟩
  have opens : ∀ w, s.Ends (ask (.file (.openTruncate lockPath)) >>=
      orFail fun e => .context "create storage lock file" (.io e)) w (.ok ()) w := fun w =>
    ⟨_, rfl, ⟨(AgreeOn.refl _ _).update_scratch not_isState_lock _, rfl⟩, id⟩
  unfold run lockStorage
  simp only [bind_assoc]
  rw [Effect.run_bind, Program.bind_assoc]
  refine Goes.part (ends_prepareStorageDir (s := s) (.inr ready))
    (ignores_outside (outside_prepareStorageDir config)) fun w₁ h₁ => ?_
  rw [← bind_assoc, continueWith_ok, Effect.run_bind, Program.bind_assoc]
  refine Goes.part (opens w₁) (ignores_outside (uses_run_bind (uses_ask rfl) fun _ => uses_orFail _ _))
    fun w₂ h₂ => ?_
  have h := private_.trans (h₁.trans h₂)
  refine Goes.acquire s (guard w₂ h) fun w₃ h₃ => ?_
  change Goes P G i ⟨(attempt (runLocked reference config op) >>= fun r =>
    ask (.unlock op r) >>= fun _ => orFail id r).run >>= k, true⟩ w₃ R
  rw [run_attempt_bind, Program.bind_assoc]
  exact rest w₃ (h.trans h₃)

/-! ### One device -/

/-- A registry of node 1 alone. -/
def oneRecord : Devices :=
  { nodes := (∅ : Std.ExtTreeMap String DeviceRecord compare).insert (nodeKey 1) {} }

theorem nodeIds_oneRecord : oneRecord.nodeIds = [1] := by decide +kernel

/-- A controller with one device. -/
def oneDevice : World :=
  (freshHost.complete reference fabric identity).put devicesPath
    (jsonFile reference.devicesJson oneRecord)

/-- The same after the device was decommissioned. -/
def noDevice : World :=
  (oneDevice.put devicesPath
    (jsonFile reference.devicesJson { nodes := oneRecord.nodes.erase (nodeKey 1) })).report
    (.decommission [1]) (.ok [{ nodeId := 1, success := true, error := none }])

theorem established_oneDevice : Established oneDevice identity :=
  (established_complete (w := freshHost) (fun _ => rfl) identity).put_devices _

theorem established_noDevice : Established noDevice identity :=
  (established_oneDevice.put_devices _).agree fun _ _ => rfl

theorem registry_oneDevice (hw : oneDevice.Alike w) : w.registry reference = oneRecord :=
  hw.same.registry.trans (World.registry_put _ _)

theorem ends_resolveOrEmpty {devices : Devices} {ns : List NodeId} (hreg : w.registry reference = devices)
    (hids : devices.nodeIds = ns) : s.Ends (resolveOrEmpty reference none) w (.ok ns) w := by
  refine Ends.bind (.of_eq (play_loadOrDefault devicesPath w)) fun w₁ h₁ => ⟨w₁, ?_, h₁⟩
  change s.script.play (pure (w.registry reference).nodeIds : Action _).run w₁ = _
  rw [hreg, hids]
  rfl

theorem ends_resolve {devices : Devices} {n : NodeId} {ns : List NodeId}
    (hreg : w.registry reference = devices) (hids : devices.nodeIds = n :: ns) :
    s.Ends (resolve reference none) w (.ok (n :: ns)) w :=
  Ends.bind (ends_resolveOrEmpty hreg hids) fun w₁ h₁ => ⟨w₁, rfl, h₁⟩

/-- What a sync does after its operation. -/
def syncEnd : Except Failure (List SyncOutcome) → Prog (Except Failure Output) :=
  continueWith fun nodes => .done (.ok (.sync true none nodes))

/-- A sync that has resolved its targets. -/
theorem goes_resolved (s : Scenario) :
    Goes P G i ⟨(runCommand reference config (.sync none none)).run, false⟩ oneDevice fun q w' =>
      q = ⟨(run reference config (.sync [1] none)).run >>= syncEnd, false⟩ ∧ oneDevice.Alike w' := by
  change Goes P G i ⟨(runSync reference config none none).run, false⟩ _ _
  unfold runSync
  rw [Effect.run_bind]
  refine Goes.part (s := s) (a := .ok none) (.of_eq rfl) (ignores_outside (uses_run_pure _)) fun w₁ h₁ => ?_
  rw [continueWith_ok, Effect.run_bind]
  refine Goes.part (s := s) (a := .ok true) ⟨w₁, rfl, h₁⟩ (ignores_outside (uses_ask trivial))
    fun w₂ h₂ => ?_
  rw [continueWith_ok]
  change Goes P G i ⟨(resolve reference none >>= _).run, false⟩ _ _
  rw [Effect.run_bind]
  refine Goes.part (s := s) (ends_resolve (registry_oneDevice h₂) nodeIds_oneRecord)
    (ignores_looks (looks_resolve _ _)) fun w₃ h₃ => ?_
  rw [continueWith_ok, Effect.run_bind]
  exact .here ⟨rfl, h₂.trans h₃⟩

theorem ends_decommissionOp (hw : oneDevice.Alike w) :
    s.Ends (runLocked reference config (.decommission [1])) w
      (.ok [{ nodeId := 1, success := true, error := none }]) (oneDevice.put devicesPath
        (jsonFile reference.devicesJson { nodes := oneRecord.nodes.erase (nodeKey 1) })) := by
  rw [runLocked_eq]
  refine Ends.bind (ends_setUp_found rfl (established_oneDevice.agree hw.same.files)) fun w₁ h₁ => ?_
  refine Ends.bind ?_ fun w₂ h₂ => Ends.bind ⟨w₂, rfl, h₂⟩ fun w₃ h₃ => ⟨w₃, rfl, h₃⟩
  refine Ends.attempt (ends_decommissionOne _ _ w₁) fun w₂ h₂ => ?_
  have h : oneDevice.Alike w₂ := hw.trans (h₁.trans h₂)
  refine Ends.bind (ends_removeDevice 1 w₂) fun w₃ h₃ => ⟨w₃, rfl, ?_⟩
  rw [registry_oneDevice h] at h₃
  exact (h.put _ _).trans h₃

/-- A decommission that reports its success. -/
theorem goes_decommission (s : Scenario) (hw : oneDevice.Alike w)
    (guard : ∀ w', oneDevice.Alike w' → G (.flock (.decommission [1])) w') :
    Goes P G i ⟨(runCommand reference config (.decommission none)).run, false⟩ w fun q w' =>
      q.holds = false ∧ noDevice.Alike w' := by
  change Goes P G i ⟨(runDecommission reference config none).run, false⟩ _ _
  unfold runDecommission
  rw [Effect.run_bind]
  refine Goes.part (s := s) (ends_resolve (registry_oneDevice hw) nodeIds_oneRecord)
    (ignores_looks (looks_resolve _ _)) fun w₁ h₁ => ?_
  rw [continueWith_ok, Effect.run_bind]
  have hw₁ := hw.trans h₁
  refine goes_locked s (by rw [hw₁.same.at_ isState_identity, established_oneDevice.identity]; rfl)
    (fun w' h' => guard w' (hw₁.trans h')) fun w₂ h₂ => ?_
  refine Goes.part (s := s) (ends_decommissionOp (hw₁.trans h₂))
    (ignores_locked (locked_runLocked _ _ _)) fun w₃ h₃ => ?_
  exact Goes.release s fun w₄ h₄ => .here ⟨rfl, (h₃.report _ _).trans h₄⟩

/-- A sync that has resolved its targets goes on when the first of them is gone. -/
theorem goes_sync (s : Scenario) (hw : noDevice.Alike w) (guard : ∀ w', G (.flock (.sync [1] none)) w') :
    Goes P G i ⟨(run reference config (.sync [1] none)).run >>= syncEnd, false⟩ w fun _ w' =>
      (1 : NodeId) ∈ w'.history.gone ∧ nodeKey 1 ∈ (w'.registry reference).nodes := by
  refine goes_locked s (by rw [hw.same.at_ isState_identity, established_noDevice.identity]; rfl)
    (fun w' _ => guard w') fun w₁ h₁ => ?_
  rw [runLocked_eq, Effect.run_bind, Program.bind_assoc]
  refine Goes.part (s := s) (ends_setUp_found rfl (established_noDevice.agree (hw.trans h₁).same.files))
    (ignores_locked (locked_setUp reference config)) fun w₂ h₂ => ?_
  rw [continueWith_ok]
  change Goes P G i ⟨(SyncOp.run reference _ none [1]).run >>= _, true⟩ _ _
  unfold SyncOp.run SyncOp.step
  simp only [bind_assoc]
  rw [Effect.run_bind, Program.bind_assoc]
  refine Goes.part (s := s) (ends_updateDevice ⟨_, rfl, ⟨.refl _ _, rfl⟩, id⟩) (ignores_locked ?_)
    fun w₃ h₃ => .here ⟨?_, ?_⟩
  · exact locked_updateDevice _ _ fun _ => uses_run_bind (uses_ask trivial) fun _ => uses_run_pure _
  · rw [h₃.same.history, World.put, if_neg devices_ne_identity, ((hw.trans h₁).trans h₂).same.history]
    exact List.mem_cons_self
  · rw [h₃.same.registry, World.registry_put]
    exact Std.ExtTreeMap.mem_insert_self

end Goes

/-- A decommission that nobody interferes with. -/
theorem gone_node_stays_gone : ∃ w : World, (1 : NodeId) ∈ w.history.gone ∧
    ∀ n ∈ w.history.gone, nodeKey n ∉ (w.registry reference).nodes := by
  obtain ⟨q, w, ⟨-, hw⟩, steps⟩ := goes_decommission (G := TargetsHere) (i := 0) {} (.refl oneDevice)
    (fun _ _ => trivial) Pool.empty fun _ _ _ => nofun
  have started : Pool.Steps anything storageLock (Invocations reference) TargetsHere
      (Pool.empty, oneDevice) _ := .head (.start rfl ⟨Scenario.config, .decommission none, rfl⟩) steps
  refine ⟨w, ?_, decommissioned_stay_gone reference rfl started⟩
  rw [hw.same.history]
  exact List.mem_cons_self

/-- **A decommissioned node comes back.**  A sync resolves its targets, node 1 is decommissioned, and the
sync takes the lock. -/
theorem decommissioned_node_returns : oneDevice.history.gone = [] ∧
    ∃ ps w, Pool.Steps anything storageLock (Invocations reference) (fun _ _ => True)
      (Pool.empty, oneDevice) (ps, w) ∧
      (1 : NodeId) ∈ w.history.gone ∧ nodeKey 1 ∈ (w.registry reference).nodes := by
  refine ⟨rfl, ?_⟩
  -- process 0 is the sync, process 1 the decommission
  obtain ⟨q₀, w₀, ⟨hq₀, h₀⟩, steps₀⟩ := goes_resolved (G := fun _ _ => True) (i := 0) {} Pool.empty
    fun _ _ _ => nofun
  have holds₀ : q₀.holds = false := hq₀ ▸ rfl
  have free₀ : ∀ j p, j ≠ 1 → Function.update Pool.empty 0 (some q₀) j = some p → p.holds = false := by
    intro j p _ hj
    by_cases h : j = 0
    · subst h
      rw [Function.update_self] at hj
      exact Option.some.inj hj ▸ holds₀
    · rw [Function.update_of_ne h] at hj
      cases hj
  obtain ⟨q₁, w₁, ⟨holds₁, h₁⟩, steps₁⟩ := goes_decommission (G := fun _ _ => True) (i := 1) {} h₀
    (fun _ _ => trivial) (Function.update Pool.empty 0 (some q₀)) free₀
  have free₁ : ∀ j p, j ≠ 0 → Function.update (Function.update Pool.empty 0 (some q₀)) 1 (some q₁) j =
      some p → p.holds = false := by
    intro j p h₀ hj
    by_cases h : j = 1
    · subst h
      rw [Function.update_self] at hj
      exact Option.some.inj hj ▸ holds₁
    · rw [Function.update_of_ne h, Function.update_of_ne h₀] at hj
      cases hj
  obtain ⟨q₂, w₂, back, steps₂⟩ := goes_sync (G := fun _ _ => True) (i := 0) {} h₁ (fun _ => trivial)
    (Function.update (Function.update Pool.empty 0 (some q₀)) 1 (some q₁)) free₁
  have waiting : Function.update (Function.update (Function.update Pool.empty 0 (some q₀)) 1 (some q₁)) 0
      (some ⟨(run reference Scenario.config (.sync [1] none)).run >>= syncEnd, false⟩) =
        Function.update (Function.update Pool.empty 0 (some q₀)) 1 (some q₁) := by
    rw [Function.update_comm (by decide), Function.update_idem, hq₀]
  rw [waiting] at steps₂
  have later : Pool.Steps anything storageLock (Invocations reference) (fun _ _ => True)
      (Function.update Pool.empty 0 (some q₀), w₀) _ :=
    .head (.start rfl ⟨Scenario.config, .decommission none, rfl⟩) (steps₁.trans steps₂)
  exact ⟨_, w₂, .head (.start rfl ⟨Scenario.config, .sync none none, rfl⟩) (steps₀.trans later), back⟩

end MatterTimeCtl
