/-
# MatterTimeCtl.Storage.Refinement — overlapping invocations, as runs of the roster machine.

Any number of invocations share one storage directory, each started and stopped at any moment and with any faults
but for reads of existing files.  From virgin storage on, whatever one of them does is a step of the machine of
`Roster.Machine` on the roll of the directory, or does not show in it.  So what is kept by the machine is kept by the
tool: there is one authority for ever, every record is of a device that was joined under it, the counter neither runs
ahead of the devices nor falls behind them by more than one, and only a decommission loses a record.

A sync fixes its targets before it has the lock.  They are known to have been joined by then, and what was joined
stays joined, whatever the others do until the lock is granted (`Meanwhile`).
-/
import MatterTimeCtl.Storage.Roll
import MatterTimeCtl.Storage.NodeIds
import MatterTimeCtl.Storage.Interleaving
import MatterTimeCtl.Effect.Rely

namespace MatterTimeCtl

open Files Effect Roster
open Relation (ReflTransGen)

section Invocations

variable {ext : Externals} {plan : (c : Call) → c.Move → Prop} {config : Config} {allowed : Act NodeId → Prop}
  {w w' : World} {op : Op} {α β : Type}

/-! ## What the others do meanwhile -/

theorem concord_refines (ext : Externals) (plan : (c : Call) → c.Move → Prop) (allowed : Act NodeId → Prop) :
    Concord (planned ext plan) storageLock (Refines ext allowed) Unlocked Locked Near where
  discipline := storage_discipline fun _ _ _ h => h
  near h := (views_refines allowed).same h.same
  carries step h h' := (views_refines allowed).carries step h.same h'.same

/-- What any number of steps of the others leave of a sane storage. -/
structure Meanwhile (ext : Externals) (allowed : Act NodeId → Prop) (w w' : World) : Prop where
  sane : Sane ext w'
  moves : ReflTransGen (Moves (membership ext) allowed) (w.roll ext) (w'.roll ext)

theorem Sane.meanwhile (hw : Sane ext w) (h : ReflTransGen (Refines ext allowed) w w') :
    Meanwhile ext allowed w w' := by
  induction h with
  | refl => exact ⟨hw, .refl⟩
  | tail _ step ih =>
      obtain ⟨sane, same | move⟩ := step ih.sane
      · exact ⟨sane, same ▸ ih.moves⟩
      · exact ⟨sane, ih.moves.tail move⟩

/-- What was joined stays joined. -/
theorem Meanwhile.numbers (h : Meanwhile ext allowed w w') : (w.roll ext).numbers ⊆ (w'.roll ext).numbers :=
  List.map_subset _ (Later.of_moves h.moves).members.subset

/-! ## With the lock -/

/-- What the operation asks of the machine, when these were joined. -/
def Permits (allowed : Act NodeId → Prop) (numbers : List NodeId) : Op → Prop
  | .commission _ => MayCommission allowed
  | .sync targets _ => (∀ n, allowed (.write n)) ∧ targets ⊆ numbers
  | .decommission targets => ∀ n ∈ targets, allowed (.strike n)
  | .inspect _ => True

/-- `ensureFabric` joins nobody. -/
theorem EnsureSeen.joined {fabrics : List Fabric} {w₁ : World}
    (h : EnsureSeen ext plan config fabrics w w₁) : w₁.history.joined = w.history.joined := by
  have cleared : ∀ {rest : List Fabric} {w₀ : World}, Cleared ext plan fabrics w rest w₀ →
      w₀.history.joined = w.history.joined := by
    rintro rest w₀ (_ | _) <;> rfl
  have install : ∀ (w₀ : World) (f : Fabric), (w₀.install ext f).history.joined = w₀.history.joined := fun w₀ f =>
    congrArg History.joined (World.install_history ext w₀ f)
  cases h with
  | untouched => rfl
  | relabelled _ _ _ => exact install w _
  | cleared h => exact cleared h
  | installed h _ => exact (install _ _).trans (cleared h.cleared)
  | @complete rest w₀ f identity h _ =>
      have put : (w₀.complete ext f identity).history.joined = (w₀.install ext f).history.joined := by
        rw [World.complete, World.put, if_pos rfl]
      exact put.trans ((install _ _).trans (cleared h.cleared))

theorem EnsureSeen.numbers {fabrics : List Fabric} {w₁ : World}
    (h : EnsureSeen ext plan config fabrics w w₁) : (w₁.roll ext).numbers = (w.roll ext).numbers :=
  congrArg (List.map Prod.fst) h.joined

theorem Sane.ensured {fabrics : List Fabric} {w₁ : World} (hw : Sane ext w) (reads : ReadsSucceed plan)
    (hload : ext.loadFabrics (blobsOf w.files) = .ok fabrics)
    (h : EnsureSeen ext plan config fabrics w w₁) : Sane ext w₁ where
  consistent := hw.consistent.ensure reads hload h
  keyed := by
    rw [h.sameNodes.registry, h.numbers]
    exact hw.keyed

/-- **What a run does while it holds the lock** refines the machine. -/
theorem Sane.follows_runLocked (hw : Sane ext w) (reads : ReadsSucceed plan) (found : allowed .found)
    (permits : Permits allowed (w.roll ext).numbers op) :
    Follows (planned ext plan) (Refines ext allowed) (runLocked ext config op).run (fun _ _ => True) w := by
  refine (views_refines allowed).runLocked (fun h hload => (stable_sane h hw).ensureSteps reads hload found) ?_
  intro loaded w₁ w₂ fabrics fabIdx identity w₃ h₁ hload hok h₃
  have sane : Sane ext w₃ := stable_sane h₃ ((stable_sane h₁ hw).ensured reads hload hok.seen)
  have ready : Ready ext { fabrics, fabIdx, identity, config } w₃ :=
    stable_ready _ h₃ (hok.ready ((stable_sane h₁ hw).ensured reads hload hok.seen).consistent)
  have numbers : (w₃.roll ext).numbers = (w.roll ext).numbers := by
    rw [h₃.roll, hok.seen.numbers, h₁.roll]
  cases op with
  | commission onboarding =>
      have hid : HasIdentity ext w₃ identity := (HasIdentity.same h₃).mpr hok.identity
      exact (views_refines allowed).commission
        ((⟨sane, ready, hid⟩ : Primed ext _ w₃).commissionSteps reads permits) onboarding
  | sync targets manualTime =>
      have enrolled : Enrolled ext targets w₃ := ⟨sane, ready.present, fun n hn => numbers ▸ permits.2 hn⟩
      exact (views_refines allowed).sync (stable_enrolled targets) manualTime
        (enrolled_inserted reads permits.1) enrolled
  | decommission targets =>
      exact (views_refines allowed).decommission (stable_enrolled []) (enrolled_erased reads permits)
        ⟨sane, ready.present, fun _ h => nomatch h⟩
  | inspect targets => exact (views_refines allowed).quits ((talk_inspect ext _ targets).mono fun _ => Talks.quiet) w₃

/-! ## With the lock and without -/

/-- What an invocation does: it relies on the others, and takes steps of the machine itself. -/
abbrev Abides (ext : Externals) (plan : (c : Call) → c.Move → Prop) (allowed : Act NodeId → Prop) (p : Prog α)
    (w : World) : Prop :=
  Bides (planned ext plan) storageLock (Refines ext allowed) Unlocked Locked (fun _ _ => True) p w

theorem refines_unlocked {c : Call} {m : c.Move} (hc : Unlocked c) (hm : (planned ext plan).admits c w m) :
    Refines ext allowed w ((planned ext plan).next c w m) :=
  (views_refines allowed).same (unlocked_next hc hm).same

/-- Outside the lock, others may take steps all the time. -/
theorem learns_outside {p : Prog α} (hp : p.Uses Outside) (w : World) :
    Learns (planned ext plan) storageLock (Refines ext allowed) Unlocked p
      (fun _ w' => ReflTransGen (Refines ext allowed) w w') w := by
  refine Learns.of_uses hp (fun c hc => ⟨.inl hc, fun a => ?_⟩) fun c w m hc hm => refines_unlocked hc hm
  cases c with
  | flock op => exact hc.elim
  | _ => exact id

theorem learns_looks {p : Prog α} (hp : p.Uses Looks) (w : World) :
    Learns (planned ext plan) storageLock (Refines ext allowed) Unlocked p
      (fun _ w' => ReflTransGen (Refines ext allowed) w w') w :=
  learns_outside (hp.mono fun _ => Looks.outside) w

theorem abides_outside {p : Prog α} (hp : p.Uses Outside) (w : World) : Abides ext plan allowed p w :=
  (learns_outside hp w).bides

theorem Sane.abides_bind {x : Action α} {f : α → Action β} (hw : Sane ext w)
    (hx : Abides ext plan allowed x.run w) (hf : ∀ a w', Sane ext w' → Abides ext plan allowed (f a).run w') :
    Abides ext plan allowed (x >>= f).run w := by
  rw [Effect.run_bind]
  refine (bides_works_bind (Sane ext) (fun _ _ step hw => (step hw).1) (fun r w' hw' => ?_)
    (fun c w m hc hm => refines_unlocked hc hm) x.run).1 w hw hx
  cases r with
  | ok a => exact hf a w' hw'
  | error e => exact .done _ w'

/-- Giving the lock back does not show. -/
theorem refines_report (op : Op) (result : Except Failure op.Out) (w : World) :
    Refines ext allowed w (w.report op result) := fun hw =>
  refines_hidden (hw.consistent.transfer (.refl _ _) rfl rfl) rfl rfl rfl hw

/-- **One operation**, from claiming the directory to giving the lock back, whatever the others do before it has the
lock. -/
theorem Sane.abides_run (hw : Sane ext w) (reads : ReadsSucceed plan) (found : allowed .found)
    (permits : Permits allowed (w.roll ext).numbers op) : Abides ext plan allowed (run ext config op).run w := by
  have later : ∀ {w'}, Meanwhile ext allowed w w' → Permits allowed (w'.roll ext).numbers op := by
    intro w' h
    cases op with
    | sync targets _ => exact ⟨permits.1, fun n hn => h.numbers (permits.2 hn)⟩
    | _ => exact permits
  unfold run
  refine (learns_outside (outside_prepareStorageDir config) w).run_bind fun _ w₁ h₁ => ?_
  unfold lockStorage
  simp only [bind_assoc]
  refine (learns_outside (uses_ask (c := .file (.openTruncate lockPath)) rfl) w₁).run_bind fun opened w₂ h₂ => ?_
  refine (learns_outside (uses_orFail _ _) w₂).run_bind fun _ w₃ h₃ => ?_
  have hrely := h₁.trans (h₂.trans h₃)
  rw [Effect.run_bind, run_ask, Program.call_bind]
  refine .call (.inr ⟨op, rfl⟩) (fun w₄ m _ _ refused => ?_) fun w₄ m h₄ hm granted _ => ?_
  · have hanswer : (planned ext plan).answer (.flock op) w₄ m = false := by simpa [storageLock] using refused
    rw [hanswer]
    exact .done _ _
  · have hanswer : (planned ext plan).answer (.flock op) w₄ m = true := granted
    rw [hanswer]
    -- what is left is the operation and the release
    change Works _ _ _ _ _ _ (attempt (runLocked ext config op) >>= fun result => do
      ask (.unlock op result)
      orFail id result).run _
    rw [run_attempt_bind]
    have now := hw.meanwhile ((hrely.trans h₄).tail (refines_unlocked (.inr ⟨op, rfl⟩) hm))
    refine Works.of_follows (now.sane.follows_runLocked reads found (later now))
      (locked_runLocked ext config op) fun result w₅ _ => ?_
    rw [Effect.run_bind, run_ask, Program.call_bind]
    refine .release trivial (fun m _ => ?_) fun m _ => ?_
    · exact (views_refines allowed).carries (refines_report op result w₅) (.refl _) (same_clock (.refl _) m.later)
    · exact abides_outside (uses_orFail _ _) _

/-! ## Every invocation -/

/-- The records that the command may strike off. -/
def Command.Strikes (struck : NodeId → Prop) : Command → Prop
  | .decommission none => ∀ n, struck n
  | .decommission (some node) => struck node
  | _ => True

/-- The invocations that strike off no other records than these. -/
def Striking (ext : Externals) (struck : NodeId → Prop) (p : Prog (Except Failure Output)) : Prop :=
  ∃ config command, Command.Strikes struck command ∧ p = (runCommand ext config command).run

/-- Any step of the machine, but striking off only these. -/
def MayStrike (struck : NodeId → Prop) : Act NodeId → Prop
  | .strike n => struck n
  | _ => True

/-- The ids in a sane registry are of devices that were joined. -/
theorem Sane.nodeIds (hw : Sane ext w) : (w.registry ext).nodeIds ⊆ (w.roll ext).numbers := by
  intro n hn
  obtain ⟨key, hkey, hparse⟩ := List.mem_filterMap.mp hn
  obtain ⟨m, hm, rfl⟩ := hw.keyed key (Std.ExtTreeMap.mem_keys.mp hkey)
  rw [parseU64_nodeKey] at hparse
  exact Option.some.inj hparse ▸ hm

/-- **The targets were joined**, whatever has happened to their records since. -/
theorem Sane.learns_resolveOrEmpty (hw : Sane ext w) (reads : ReadsSucceed plan) (target : Option NodeId) :
    Learns (planned ext plan) storageLock (Refines ext allowed) Unlocked (resolveOrEmpty ext target).run
      (fun r w' => Sane ext w' ∧ ∀ targets, r = .ok targets →
        targets ⊆ (w'.roll ext).numbers ∧ ∀ node, target = some node → targets = [node]) w := by
  unfold resolveOrEmpty loadOrDefault
  simp only [bind_assoc]
  rw [Effect.run_bind, run_ask, Program.call_bind]
  refine ⟨.inl trivial, fun _ => id, fun w₁ m h₁ hm => ?_⟩
  have now := hw.meanwhile (h₁.tail (refines_unlocked (.inl (by trivial)) hm))
  have same := (unlocked_next (.inl (by trivial)) hm).same
  have registry : registryOf ext ((planned ext plan).answer (.file (.readToString devicesPath)) w₁ m) =
      ((planned ext plan).next (.file (.readToString devicesPath)) w₁ m).registry ext := by
    have read : Reads plan w₁.files devicesPath
        ((planned ext plan).answer (.file (.readToString devicesPath)) w₁ m) := ⟨m, hm.2, rfl⟩
    rw [read.registry_eq reads, same.registry]
  have known := now.sane.nodeIds
  rw [← registry] at known
  cases target with
  | none =>
      refine ⟨now.sane, fun targets h => ?_⟩
      obtain rfl := Except.ok.inj h
      exact ⟨known, nofun⟩
  | some node =>
      show Learns _ _ _ _ (ite _ _ _ : Action (List NodeId)).run _ _
      split
      · rename_i hmem
        refine ⟨now.sane, fun targets h => ?_⟩
        obtain rfl := Except.ok.inj h
        exact ⟨List.cons_subset.mpr ⟨known (by simpa using hmem), List.nil_subset _⟩, fun n hn => by
          rw [Option.some.inj hn]⟩
      · exact ⟨now.sane, fun _ => error_ne_ok⟩

theorem Sane.learns_resolve (hw : Sane ext w) (reads : ReadsSucceed plan) (target : Option NodeId) :
    Learns (planned ext plan) storageLock (Refines ext allowed) Unlocked (resolve ext target).run
      (fun r w' => Sane ext w' ∧ ∀ targets, r = .ok targets →
        targets ⊆ (w'.roll ext).numbers ∧ ∀ node, target = some node → targets = [node]) w := by
  refine (hw.learns_resolveOrEmpty reads target).run_then (fun targets w' h => ?_) fun e w' h =>
    ⟨h.1, fun _ => error_ne_ok⟩
  dsimp only
  split
  · exact ⟨h.1, fun _ => error_ne_ok⟩
  · exact h

/-- **Every invocation** relies on the others and refines the machine. -/
theorem Sane.abides_invocation {struck : NodeId → Prop} {p : Prog (Except Failure Output)}
    (hp : Striking ext struck p) (reads : ReadsSucceed plan) (hw : Sane ext w) :
    Abides ext plan (MayStrike struck) p w := by
  obtain ⟨config, command, strikes, rfl⟩ := hp
  have ends : ∀ {α : Type} (a : α) (w : World), Abides ext plan (MayStrike struck) (pure a : Action α).run w :=
    fun a w => .done _ w
  cases command with
  | status filter => exact abides_outside ((looks_status ext config filter).mono fun _ => Looks.outside) w
  | sync target time =>
      refine (learns_looks (looks_manualTimeOf ext config time) w).run_bind fun manualTime w₁ h₁ => ?_
      refine (learns_outside (uses_ask (c := .ntpSynchronized) trivial) w₁).run_bind fun ntp w₂ h₂ => ?_
      split
      · exact abides_outside (uses_run_bind (uses_ask (c := .log .warn _) trivial) fun _ => uses_run_pure _) w₂
      · have hw₂ := (hw.meanwhile (h₁.trans h₂)).sane
        refine (hw₂.learns_resolve reads target).run_bind fun targets w₃ ⟨hw₃, known⟩ => ?_
        exact hw₃.abides_bind (hw₃.abides_run reads trivial ⟨fun _ => trivial, (known targets rfl).1⟩)
          fun _ w₄ _ => ends _ w₄
  | commission onboarding =>
      have may : MayCommission (MayStrike struck) := ⟨fun _ => trivial, fun _ => trivial, fun _ => trivial⟩
      exact hw.abides_bind (hw.abides_run reads trivial may) fun _ w₁ _ => ends _ w₁
  | decommission target =>
      refine (hw.learns_resolve reads target).run_bind fun targets w₁ ⟨hw₁, known⟩ => ?_
      have permitted : ∀ n ∈ targets, MayStrike struck (.strike n) := by
        intro n hn
        cases target with
        | none => exact strikes n
        | some node =>
            rw [(known targets rfl).2 node rfl, List.mem_singleton] at hn
            exact hn ▸ strikes
      refine hw₁.abides_bind (hw₁.abides_run reads trivial permitted) fun nodes w₂ _ => ?_
      exact abides_outside (uses_run_bind ((looks_loadOrDefault ext _).mono fun _ => Looks.outside) fun _ =>
        uses_run_pure _) w₂
  | inspect target =>
      refine (hw.learns_resolveOrEmpty reads target).run_bind fun targets w₁ ⟨hw₁, _⟩ => ?_
      split
      · exact ends _ w₁
      · exact hw₁.abides_bind (hw₁.abides_run reads trivial trivial) fun _ w₂ _ => ends _ w₂

/-! ## Whole interleavings -/

/-- Any number of steps of any number of these invocations, each started and stopped at any moment. -/
abbrev Interleaved (ext : Externals) (plan : (c : Call) → c.Move → Prop) (struck : NodeId → Prop) :
    Pool Call Call.Answer (Except Failure Output) × World →
      Pool Call Call.Answer (Except Failure Output) × World → Prop :=
  Pool.Steps (planned ext plan) storageLock (Striking ext struck) fun _ _ => True

end Invocations

end MatterTimeCtl
