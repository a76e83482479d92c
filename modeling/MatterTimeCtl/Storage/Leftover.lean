/-
# MatterTimeCtl.Storage.Leftover — interrupted writes, and the temporary files they leave behind.

Every state file is replaced by building a temporary file next to it and renaming it over.  A write that
is stopped or fails on the way leaves the target as it was and, at most, a temporary file.  The names of
temporary files end in `.tmp`, which no state file's name does; so no later reader is misled by one,
whatever it holds: a reader runs in step in two worlds that differ in temporary files only.
-/
import MatterTimeCtl.Effect.Lockstep
import MatterTimeCtl.Storage.Atomic

namespace MatterTimeCtl

open Files Effect

/-! ## Names of temporary files -/

/-- A name that ends in `.tmp`. -/
def IsTemp (p : Path) : Prop := ".tmp".toList <:+ p.name.toList

theorem isTemp_withExtension {p : Path} {extension : String}
    (h : ".tmp".toList <:+ ("." ++ extension).toList) : IsTemp (withExtension p extension) := by
  obtain ⟨front, hfront⟩ := h
  refine ⟨(fileStem p.name).toList ++ front, ?_⟩
  rw [List.append_assoc, hfront]
  simp only [withExtension, String.append_assoc, String.toList_append]

theorem isTemp_jsonTmp (p : Path) : IsTemp (withExtension p "json.tmp") :=
  isTemp_withExtension (by decide)

theorem isTemp_keyTmp (key : UInt16) : IsTemp (withExtension (keyPath key) "tmp") :=
  isTemp_withExtension (by decide)

/-- A key's file has the last character of a key, a hexadecimal digit. -/
theorem not_isTemp_key (key : UInt16) : ¬ IsTemp (keyPath key) := by
  intro h
  have hdot : '.' ∈ (keyPath key).name.toList := h.subset (by decide)
  have hk := key.toNat_lt
  have digit : ∀ {a : Nat}, a < 16 → a.digitChar ≠ '.' := digitChar_ne_dot
  simp only [keyPath, hexEncode, hexByte, List.flatMap_cons, List.flatMap_nil,
    String.toList_append, String.toList_ofList, List.mem_append, List.mem_cons,
    List.not_mem_nil, or_false, UInt16.toNat_toUInt8] at hdot
  rcases hdot with h | (h | h) | h | h
  · exact absurd h (by decide)
  all_goals exact digit (by omega) h.symm

theorem not_isTemp_of_isState {p : Path} (h : IsState p) : ¬ IsTemp p := by
  rcases h with rfl | rfl | ⟨key, rfl⟩
  · unfold IsTemp
    decide
  · unfold IsTemp
    decide
  · exact not_isTemp_key key

/-- The temporary file of a JSON file is another file, whatever the name. -/
theorem ne_jsonTmp (p : Path) : p ≠ withExtension p "json.tmp" := by
  intro h
  have hname : p.name = fileStem p.name ++ ".json.tmp" := by
    have := congrArg Path.name h
    rwa [withExtension, String.append_assoc] at this
  -- what is left of the name without its extension still ends in `.json`
  have hrev : p.name.toList.reverse = "pmt.nosj.".toList ++ (fileStem p.name).toList.reverse := by
    rw [hname, String.toList_append, List.reverse_append, ← hname]
    rfl
  have hstem : fileStem p.name = String.ofList ((fileStem p.name).toList ++ ".json".toList) := by
    conv_lhs => rw [fileStem, hrev]
    simp
  have hlen := congrArg (fun s : String => s.toList.length) hstem
  simp at hlen

/-! ## All or nothing at every stop -/

/-- A program that replaces a file: wherever it is stopped and whatever fails, a reader of the target sees
the old content or exactly the new bytes, and nothing but the temporary file changes besides; when it
reports success the new bytes are in place, and otherwise the old content is. -/
structure AllOrNothing (ext : Externals) (plan : (c : Call) → c.Move → Prop) {α : Type} (x : Prog α)
    (succeeded : α → Prop) (target temp : Path) (bytes : ByteArray) (w : World) : Prop where
  seen : ∀ {tr q w'}, Exec (planned ext plan) x w tr q w' →
    w'.files target = w.files target ∨ w'.files target = some bytes
  others : ∀ {tr q w' p}, Exec (planned ext plan) x w tr q w' → p ≠ target → p ≠ temp →
    w'.files p = w.files p
  success : ∀ {tr r w'}, Exec (planned ext plan) x w tr (.done r) w' → succeeded r →
    w'.files target = some bytes
  error : ∀ {tr r w'}, Exec (planned ext plan) x w tr (.done r) w' → ¬ succeeded r →
    w'.files target = w.files target

section AllOrNothing

variable {ext : Externals} {plan : (c : Call) → c.Move → Prop} {w : World}

/-- Settled at all paths but the temporary file's is all or nothing. -/
theorem allOrNothing_of_safe {α : Type} {x : Prog α} {succeeded : α → Prop} {target temp : Path}
    {bytes : ByteArray} (hne : target ≠ temp)
    (h : Safe (planned ext plan)
      (fun w' => w.SameOn (· ≠ temp) w' ∨ (w.put target bytes).SameOn (· ≠ temp) w') x
      (fun r w' => (succeeded r ∧ (w.put target bytes).SameOn (· ≠ temp) w') ∨
        (¬ succeeded r ∧ w.SameOn (· ≠ temp) w')) w) :
    AllOrNothing ext plan x succeeded target temp bytes w where
  seen hx := by
    refine (h.exec hx).imp (fun same => same.files target hne) fun put => ?_
    rw [put.files target hne, World.put_files_self]
  others hx hp htemp := by
    rcases h.exec hx with same | put
    · exact same.files _ htemp
    · rw [put.files _ htemp, World.put_files_of_ne _ hp]
  success hx hr := by
    rcases h.result hx with ⟨-, put⟩ | ⟨hnot, -⟩
    · rw [put.files target hne, World.put_files_self]
    · exact absurd hr hnot
  error hx hr := by
    rcases h.result hx with ⟨hyes, -⟩ | ⟨-, same⟩
    · exact absurd hyes hr
    · exact same.files target hne

theorem store_allOrNothing {α : Type} (json : Codec α) (path : Path) (value : α) :
    AllOrNothing ext plan (store json path value).run (· = .ok ()) path
      (withExtension path "json.tmp") (jsonFile json value) w := by
  refine allOrNothing_of_safe (ne_jsonTmp path) ?_
  refine (store_specOn (fun h => h rfl) json value w).mono (fun _ h => h) fun r w' _ settled => ?_
  cases r with
  | ok u => exact .inl ⟨rfl, settled⟩
  | error e => exact .inr ⟨fun h => (by cases h), settled.1⟩

theorem kvStore_allOrNothing (key : UInt16) (data : ByteArray) :
    AllOrNothing ext plan (kvStore key data).run (· = .ok (.ok ())) (keyPath key)
      (withExtension (keyPath key) "tmp") (data ++ "\n".toUTF8) w := by
  refine allOrNothing_of_safe (fun h => not_isTemp_key key (h ▸ isTemp_keyTmp key)) ?_
  refine (kvStore_specOn key (fun h => h rfl) data w).mono (fun _ h => h) fun r w' _ h => ?_
  obtain ⟨done, rfl, settled⟩ := h
  cases done with
  | ok u => exact .inl ⟨rfl, settled⟩
  | error e => exact .inr ⟨fun h => (by cases h), settled.1⟩

end AllOrNothing

/-! ## Worlds that differ in some files only -/

/-- The worlds are the same but for files at paths outside `S`. -/
def World.Twin (S : Path → Prop) (w w' : World) : Prop :=
  ∃ files, AgreeOn S w.files files ∧ w' = { w with files }

/-- Calls that name only paths in `S` and list no directory. -/
def CallOn (S : Path → Prop) : Call → Prop
  | .file c => c.On S
  | .dir (.readDir _) => False
  | _ => True

section Twin

variable {ext : Externals} {plan : (c : Call) → c.Move → Prop} {S : Path → Prop} {w w' : World}

theorem World.Twin.mono {T : Path → Prop} (h : w.Twin T w') (hST : ∀ p, S p → T p) : w.Twin S w' := by
  obtain ⟨files, hagree, rfl⟩ := h
  exact ⟨files, fun p hp => hagree p (hST p hp), rfl⟩

theorem afterFile_agree {files files' : FileMap Path} (h : AgreeOn S files files')
    {c : FileCall Path} (hc : c.On S) (history : History) :
    history.afterFile ext files' c = history.afterFile ext files c := by
  cases c with
  | rename source target => simp only [History.afterFile, h source hc.1]
  | removeFile p => simp only [History.afterFile, h p hc]
  | _ => rfl

theorem blobsOf_agree (hS : ∀ p, IsState p → S p) {files files' : FileMap Path}
    (h : AgreeOn S files files') : blobsOf files' = blobsOf files :=
  funext fun key => h _ (hS _ (isState_key key))

/-- No call on paths in `S` tells the two apart. -/
theorem World.Twin.step (hS : ∀ p, IsState p → S p) {c : Call} (hc : CallOn S c) (h : w.Twin S w')
    {m : c.Move} (hm : (planned ext plan).admits c w m) : (planned ext plan).admits c w' m ∧
      (planned ext plan).answer c w' m = (planned ext plan).answer c w m ∧
      ((planned ext plan).next c w m).Twin S ((planned ext plan).next c w' m) := by
  obtain ⟨files, hagree, rfl⟩ := h
  obtain ⟨later, choice⟩ := m
  -- the answer and the effect first: only file calls, loads and the next node id look at the files
  have alike : callAnswer ext { w with files } later c choice = callAnswer ext w later c choice ∧
      (callEffect ext w later c choice).Twin S (callEffect ext { w with files } later c choice) := by
    cases c with
    | file c =>
        refine ⟨hagree.answer hc choice, ?_⟩
        cases choice with
        | succeed =>
            refine ⟨c.next files .succeed, hagree.next hc .succeed, ?_⟩
            simp only [callEffect, afterFile_agree hagree hc]
        | fail n => exact ⟨c.next files (.fail n), hagree.next hc (.fail n), rfl⟩
    | dir c =>
        refine ⟨?_, files, ?_, ?_⟩
        · cases c with
          | «exists» d => cases d <;> rfl
          | _ => rfl
        · show AgreeOn S (dirEffect w c choice).files files
          rwa [show (dirEffect w c choice).files = w.files by unfold dirEffect; split <;> rfl]
        · show dirEffect { w with files } c choice = { dirEffect w c choice with files }
          unfold dirEffect
          split <;> rfl
    | loadPersist =>
        refine ⟨?_, files, hagree, rfl⟩
        cases choice with
        | none => exact congrArg ext.loadFabrics (blobsOf_agree hS hagree)
        | some e => rfl
    | timed secs future =>
        refine ⟨rfl, files, ?_⟩
        cases future with
        | initiate nodeId => exact ⟨hagree, rfl⟩
        | commission peer passcode nodeId =>
            refine ⟨hagree, ?_⟩
            have hregistry : World.registry ext { w with files } = w.registry ext := by
              simp only [World.registry, readText, hagree _ (hS _ isState_devices)]
            simp only [callEffect, futureEffect, World.assign, hregistry]
        | completeViaCase peer fabric nodeId =>
            obtain ⟨processed, reply⟩ := choice
            cases processed with
            | none => exact ⟨hagree, rfl⟩
            | some at_ => exact ⟨hagree, rfl⟩
    | wire nodeId r =>
        refine ⟨rfl, files, ?_⟩
        obtain ⟨processed, reply⟩ := choice
        cases processed with
        | none => exact ⟨hagree, rfl⟩
        | some at_ => exact ⟨hagree, rfl⟩
    | _ => exact ⟨rfl, files, hagree, rfl⟩
  obtain ⟨answered, files', hagree', heffect⟩ := alike
  refine ⟨⟨⟨hm.1.1, ?_⟩, hm.2⟩, answered, files', hagree', ?_⟩
  -- of what a move must satisfy, only a listing looks at the files, and it is no call on `S`
  · have lawful := hm.1.2
    cases c with
    | dir c =>
        cases c with
        | readDir d => exact hc.elim
        | _ => exact lawful
    | crypto c => cases c <;> cases choice <;> exact lawful
    | _ => exact lawful
  · show { callEffect ext { w with files } later c choice with clock := later } = _
    rw [heffect]
    rfl

/-- The program runs in step in worlds that differ outside `S` only, and leaves such worlds behind. -/
def InStep (ext : Externals) (plan : (c : Call) → c.Move → Prop) (S : Path → Prop) {α : Type}
    (x : Action α) : Prop :=
  ∀ ⦃w w'⦄, w.Twin S w' → Lockstep (planned ext plan) x.run (fun _ => World.Twin S) w w'

theorem InStep.bind {α β : Type} {x : Action α} {f : α → Action β} (hx : InStep ext plan S x)
    (hf : ∀ a, InStep ext plan S (f a)) : InStep ext plan S (x >>= f) := by
  intro w w' h
  exact (hx h).run_bind (fun a v v' hv => hf a hv) fun _ _ _ hv => hv

theorem inStep_of_uses (hS : ∀ p, IsState p → S p) {α : Type} {x : Action α}
    (h : x.run.Uses (CallOn S)) : InStep ext plan S x := by
  intro w w' hw
  exact .of_uses h (fun c v v' m hc hv hm => hv.step hS hc hm) hw

theorem inStep_pure {α : Type} (a : α) : InStep ext plan S (pure a : Action α) :=
  fun _ _ h => lockstep_done.mpr h

theorem inStep_throw {α : Type} (e : Failure) : InStep ext plan S (throw e : Action α) :=
  fun _ _ h => lockstep_done.mpr h

theorem inStep_orFail {ε α : Type} (f : ε → Failure) (r : Except ε α) :
    InStep ext plan S (orFail f r) := by
  cases r with
  | ok a => exact inStep_pure a
  | error e => exact inStep_throw (f e)

theorem InStep.attempt {α : Type} {x : Action α} (hx : InStep ext plan S x) :
    InStep ext plan S (attempt x) := by
  intro w w' h
  rw [run_attempt]
  exact (hx h).bind fun r v v' hv => lockstep_done.mpr hv

theorem inStep_ask (hS : ∀ p, IsState p → S p) {c : Call} (hc : CallOn S c) :
    InStep ext plan S (ask c) := inStep_of_uses hS (uses_ask hc)

/-- Once a file has been truncated, both worlds have the same content in it. -/
theorem lockstep_openTruncate {t : Path} (h : w.Twin S w') :
    Lockstep (planned ext plan) (ask (.file (.openTruncate t)) >>= orFail Failure.io).run
      (fun r v v' => v.Twin S v' ∧ ∀ u, r = .ok u → v.Twin (fun p => S p ∨ p = t) v') w w' := by
  obtain ⟨files, hagree, rfl⟩ := h
  rw [Effect.run_bind, run_ask, Program.call_bind]
  refine lockstep_call.mpr fun m hm => ⟨hm, ?_⟩
  obtain ⟨later, io⟩ := m
  cases io with
  | succeed =>
      have both : AgreeOn (fun p => S p ∨ p = t)
          (Function.update w.files t (some ByteArray.empty))
          (Function.update files t (some ByteArray.empty)) := by
        intro p hp
        by_cases hpt : p = t
        · rw [hpt, Function.update_self, Function.update_self]
        · rw [Function.update_of_ne hpt, Function.update_of_ne hpt]
          exact hagree p (hp.resolve_right hpt)
      exact ⟨rfl, lockstep_done.mpr
        ⟨⟨_, fun p hp => both p (.inl hp), rfl⟩, fun _ _ => ⟨_, both, rfl⟩⟩⟩
  | fail n => exact ⟨rfl, lockstep_done.mpr ⟨⟨files, hagree, rfl⟩, fun _ h => by cases h⟩⟩

/-- **Building aside and renaming runs in step**, whatever is left of an earlier attempt. -/
theorem inStep_replace (hS : ∀ p, IsState p → S p) {t p : Path} (hp : S p) (d : Dir)
    (body : ByteArray) : InStep ext plan S (do
      ask (.dir (.createAll d)) >>= orFail Failure.io
      writePrivate t body
      ask (.file (.rename t p)) >>= orFail .io : Action Unit) := by
  refine InStep.bind (InStep.bind (inStep_ask hS trivial) fun r => inStep_orFail _ r) fun _ => ?_
  intro w w' h
  have hS' : ∀ q, IsState q → S q ∨ q = t := fun q hq => .inl (hS q hq)
  have ht : (fun q => S q ∨ q = t) t := .inr rfl
  have rest : InStep ext plan (fun q => S q ∨ q = t) (do
      ask (.file (.writeAll t body)) >>= orFail Failure.io
      ask (.file (.writeAll t "\n".toUTF8)) >>= orFail .io
      ask (.file (.syncAll t)) >>= orFail .io
      ask (.file (.rename t p)) >>= orFail .io : Action Unit) := by
    refine InStep.bind (InStep.bind (inStep_ask hS' ht) fun r => inStep_orFail _ r) fun _ => ?_
    refine InStep.bind (InStep.bind (inStep_ask hS' ht) fun r => inStep_orFail _ r) fun _ => ?_
    refine InStep.bind (InStep.bind (inStep_ask hS' ht) fun r => inStep_orFail _ r) fun _ => ?_
    exact InStep.bind (inStep_ask hS' ⟨ht, .inl hp⟩) fun r => inStep_orFail _ r
  unfold writePrivate
  simp only [bind_assoc] at rest ⊢
  rw [← bind_assoc]
  refine (lockstep_openTruncate h).run_bind (fun u v v' hv => ?_) fun _ _ _ hv => hv.1
  exact (rest (hv.2 u rfl)).mono fun _ _ _ h => h.mono fun _ => .inl

end Twin

/-! ## Readers -/

/-- The worlds are the same but for temporary files. -/
abbrev World.SameButTemps : World → World → Prop := World.Twin fun p => ¬ IsTemp p

section Readers

variable {ext : Externals} {plan : (c : Call) → c.Move → Prop}

/-- A program part that temporary files do not reach. -/
abbrev TempBlind (ext : Externals) (plan : (c : Call) → c.Move → Prop) {α : Type} (x : Action α) : Prop :=
  InStep ext plan (fun p => ¬ IsTemp p) x

theorem tempBlind_ask {c : Call} (hc : CallOn (fun p => ¬ IsTemp p) c) :
    TempBlind ext plan (ask c) := inStep_ask (fun _ => not_isTemp_of_isState) hc

theorem tempBlind_kvLoad (key : UInt16) (bufLen : Nat) : TempBlind ext plan (kvLoad key bufLen) := by
  refine InStep.bind (tempBlind_ask (not_isTemp_key key)) fun r => ?_
  cases r with
  | ok data =>
      dsimp only
      split
      · exact inStep_pure _
      · exact inStep_pure _
  | error e => cases e <;> exact inStep_pure _

theorem tempBlind_loadOrDefault {path : Path} (h : ¬ IsTemp path) :
    TempBlind ext plan (loadOrDefault ext path) :=
  InStep.bind (tempBlind_ask h) fun _ => inStep_pure _

theorem tempBlind_persistFabric (fabrics : List Fabric) (fabIdx : FabIdx) :
    TempBlind ext plan (persistFabric ext fabrics fabIdx) := by
  unfold persistFabric
  split
  · exact inStep_throw _
  · refine InStep.bind (InStep.bind (InStep.attempt ?_) fun r => ?_) fun r => inStep_orFail _ r
    · exact inStep_replace (fun _ => not_isTemp_of_isState) (not_isTemp_key _) _ _
    · cases r <;> exact inStep_pure _

theorem tempBlind_bootstrapFabric (config : Config) (fabrics : List Fabric) :
    TempBlind ext plan (bootstrapFabric ext config fabrics) := by
  refine InStep.bind ?_ fun (identity, fabIdx, seed) => ?_
  · exact inStep_of_uses (fun _ => not_isTemp_of_isState)
      (uses_mintFabric (fun _ => trivial) (fun _ => trivial) fabrics)
  · refine (tempBlind_persistFabric _ _).bind fun _ => InStep.bind (InStep.attempt ?_) fun r => ?_
    · exact inStep_replace (fun _ => not_isTemp_of_isState) (not_isTemp_of_isState isState_identity) _ _
    · cases r with
      | ok _ => exact inStep_pure _
      | error _ => exact inStep_throw _

theorem tempBlind_refuseOrBootstrap (config : Config) (fabrics : List Fabric) (registry : Devices) :
    TempBlind ext plan (refuseOrBootstrap ext config fabrics registry) := by
  refine InStep.bind (tempBlind_ask (not_isTemp_of_isState isState_identity)) fun b => ?_
  split
  · exact inStep_throw _
  · split
    · exact inStep_throw _
    · exact tempBlind_bootstrapFabric config fabrics

theorem tempBlind_reconcileLabel (fabrics : List Fabric) (fabIdx : FabIdx) (label : String) :
    TempBlind ext plan (reconcileLabel ext fabrics fabIdx label) := by
  unfold reconcileLabel
  dsimp only
  split
  · exact inStep_pure _
  · split
    · exact inStep_throw _
    · exact (tempBlind_persistFabric _ _).bind fun _ => inStep_pure _

theorem tempBlind_removePersistedFabric (fabIdx : FabIdx) :
    TempBlind ext plan (removePersistedFabric ext fabIdx) := by
  refine InStep.bind (InStep.bind (tempBlind_ask (not_isTemp_key _)) fun r => ?_) fun r => inStep_orFail _ r
  split <;> exact inStep_pure _

theorem tempBlind_ensureFabric (config : Config) (fabrics : List Fabric) :
    TempBlind ext plan (ensureFabric ext config fabrics) := by
  refine (tempBlind_loadOrDefault (not_isTemp_of_isState isState_devices)).bind fun registry => ?_
  cases (fabrics.map Fabric.fabIdx).head? with
  | none => exact tempBlind_refuseOrBootstrap config _ _
  | some fabIdx =>
      refine InStep.bind (tempBlind_ask (not_isTemp_of_isState isState_identity)) fun answer => ?_
      cases answer with
      | ok raw =>
          dsimp only
          cases ext.identityJson.decode raw with
          | error _ => exact inStep_throw _
          | ok _ => exact (tempBlind_reconcileLabel _ _ _).bind fun _ => inStep_pure _
      | error cause =>
          dsimp only
          split
          · exact InStep.bind (tempBlind_ask trivial) fun _ =>
              (tempBlind_removePersistedFabric _).bind fun _ => tempBlind_refuseOrBootstrap config _ _
          · exact inStep_throw _

theorem tempBlind_classifyIdentity (b b' : Bool) :
    TempBlind ext plan (classifyIdentity ext b b') := by
  cases b
  · cases b' <;> exact inStep_pure _
  · cases b'
    · exact inStep_pure _
    · refine InStep.bind (tempBlind_ask (not_isTemp_of_isState isState_identity)) fun answer => ?_
      cases answer with
      | ok raw =>
          dsimp only
          cases ext.identityJson.decode raw <;> exact inStep_pure _
      | error e => exact inStep_pure _

/-! ### What readers can return -/

/-- Some run of the program part returns this result. -/
def Returned (ext : Externals) {α : Type} (x : Action α) (w : World) (r : Except Failure α) : Prop :=
  Can (planned ext fun _ _ => True) x.run (fun a _ => a = r) w

/-- What the part can return in one world, it can return in the other. -/
def ReturnsAlike (ext : Externals) {α : Type} (x : Action α) (w w' : World) : Prop :=
  ∀ r, Returned ext x w r → Returned ext x w' r

theorem TempBlind.returnsAlike {α : Type} {x : Action α} {w w' : World}
    (hx : TempBlind ext (fun _ _ => True) x) (h : w.SameButTemps w') : ReturnsAlike ext x w w' :=
  fun _ hr => ((hx h).can hr).mono fun _ _ hv => hv.elim fun _ hv => hv.1

/-- A committed blob's name is not a temporary file's. -/
theorem not_isTemp_of_isCommittedBlob {name : String} (h : isCommittedBlob name = true) :
    ¬ IsTemp ⟨.matter, name⟩ := by
  intro htemp
  have hsuffix : ".tmp".toList.isSuffixOf name.toList = true := List.isSuffixOf_iff_suffix.mpr htemp
  simp only [isCommittedBlob, hsuffix, Bool.not_true, Bool.and_false] at h
  cases h

/-- The directory has finitely many entries, so that it can be listed. -/
def World.Listable (w : World) (d : Dir) : Prop :=
  ∃ names : List String, ∀ name, name ∈ names ↔ w.HasEntry d name

/-- True listings of worlds that differ in temporary files only agree on whether there is a blob. -/
theorem any_isCommittedBlob_eq {w w' : World} (h : w.SameButTemps w') {names names' : List String}
    (hnames : ∀ name, name ∈ names ↔ w.HasEntry .matter name)
    (hnames' : ∀ name, name ∈ names' ↔ w'.HasEntry .matter name) :
    names'.any isCommittedBlob = names.any isCommittedBlob := by
  obtain ⟨files, hagree, rfl⟩ := h
  have hiff : ∀ name, isCommittedBlob name = true → (name ∈ names' ↔ name ∈ names) := by
    intro name hname
    have hfile : files ⟨.matter, name⟩ = w.files ⟨.matter, name⟩ :=
      hagree _ (not_isTemp_of_isCommittedBlob hname)
    rw [hnames, hnames']
    simp only [World.HasEntry, hfile]
  rw [Bool.eq_iff_iff, List.any_eq_true, List.any_eq_true]
  constructor
  · rintro ⟨name, hmem, hname⟩
    exact ⟨name, (hiff name hname).mp hmem, hname⟩
  · rintro ⟨name, hmem, hname⟩
    exact ⟨name, (hiff name hname).mpr hmem, hname⟩

/-- The scan that `status` makes of the key-value directory passes temporary files over. -/
theorem fabricExists_can {w w' : World} (h : w.SameButTemps w') (listable : w'.Listable .matter)
    {Q : Except Failure Bool → World → Prop}
    (can : Can (planned ext fun _ _ => True) fabricExists.run Q w) :
    Can (planned ext fun _ _ => True) fabricExists.run
      (fun r v' => ∃ v, Q r v ∧ v.SameButTemps v') w' := by
  unfold fabricExists at can ⊢
  rw [Effect.run_bind, run_ask, Program.call_bind] at can ⊢
  obtain ⟨⟨later, choice⟩, hm, hrest⟩ := can_call.mp can
  have after : ({ w with clock := later } : World).SameButTemps { w' with clock := later } := by
    obtain ⟨files, hagree, rfl⟩ := h
    exact ⟨files, hagree, rfl⟩
  have clock : w'.clock = w.clock := by
    obtain ⟨files, -, rfl⟩ := h
    rfl
  cases choice with
  | error e =>
      exact can_call.mpr ⟨⟨later, .error e⟩, ⟨⟨clock ▸ hm.1.1, trivial⟩, trivial⟩,
        can_done.mpr ⟨_, can_done.mp hrest, after⟩⟩
  | ok names =>
      obtain ⟨names', hnames'⟩ := listable
      refine can_call.mpr ⟨⟨later, .ok names'⟩, ⟨⟨clock ▸ hm.1.1, hnames'⟩, trivial⟩, ?_⟩
      have hany := any_isCommittedBlob_eq h hm.1.2 hnames'
      have hrest : Q (.ok (names.any isCommittedBlob)) { w with clock := later } := can_done.mp hrest
      refine can_done.mpr ⟨_, ?_, after⟩
      show Q (.ok (names'.any isCommittedBlob)) _
      rwa [hany]

theorem identityStatus_returnsAlike {w w' : World} (h : w.SameButTemps w')
    (listable : w'.Listable .matter) : ReturnsAlike ext (identityStatus ext) w w' := by
  intro r hr
  unfold Returned identityStatus at hr ⊢
  rw [Effect.run_bind, run_ask, Program.call_bind] at hr ⊢
  obtain ⟨m, hm, hrest⟩ := can_call.mp hr
  obtain ⟨hm', answered, after⟩ :=
    h.step (c := .file (.pathExists identityPath)) (fun _ => not_isTemp_of_isState)
      (not_isTemp_of_isState isState_identity) hm
  refine can_call.mpr ⟨m, hm', ?_⟩
  rw [answered]
  simp only [Program.done_bind, continueWith_ok, Effect.run_bind] at hrest ⊢
  have listable' : (((planned ext fun _ _ => True).next (.file (.pathExists identityPath)) w' m)).Listable
      .matter := by
    obtain ⟨later, io⟩ := m
    cases io <;> exact listable
  refine Can.bind ((fabricExists_can after listable' hrest.of_bind).mono ?_)
  rintro b v' ⟨v, hv, hsame⟩
  cases b with
  | ok b => exact ((tempBlind_classifyIdentity _ b hsame).can hv).mono fun _ _ hx => hx.elim fun _ hx => hx.1
  | error e =>
      rw [continueWith_error, can_done] at hv ⊢
      exact hv

end Readers

/-! ## The result -/

/-- **State writes are all or nothing, and what an interrupted one leaves behind misleads no reader.** -/
theorem state_writes_all_or_nothing (ext : Externals) (plan : (c : Call) → c.Move → Prop) (w : World) :
    (∀ {α : Type} (json : Codec α) (path : Path) (value : α),
      AllOrNothing ext plan (store json path value).run (· = .ok ()) path
        (withExtension path "json.tmp") (jsonFile json value) w) ∧
    (∀ key data, AllOrNothing ext plan (kvStore key data).run (· = .ok (.ok ())) (keyPath key)
      (withExtension (keyPath key) "tmp") (data ++ "\n".toUTF8) w) ∧
    (∀ path, IsTemp (withExtension path "json.tmp")) ∧
    (∀ key, IsTemp (withExtension (keyPath key) "tmp")) ∧
    (∀ path, IsState path → ¬ IsTemp path) ∧
    (∀ w', w.SameButTemps w' →
      (∀ key bufLen, ReturnsAlike ext (kvLoad key bufLen) w w') ∧
      (∀ path, ¬ IsTemp path → ReturnsAlike ext (loadOrDefault ext path) w w') ∧
      (∀ config fabrics, ReturnsAlike ext (ensureFabric ext config fabrics) w w') ∧
      (w'.Listable .matter → ReturnsAlike ext (identityStatus ext) w w')) := by
  refine ⟨fun json path value => store_allOrNothing json path value, kvStore_allOrNothing,
    isTemp_jsonTmp, isTemp_keyTmp, fun _ => not_isTemp_of_isState, fun w' h => ⟨?_, ?_, ?_, ?_⟩⟩
  · intro key bufLen
    exact (tempBlind_kvLoad key bufLen).returnsAlike h
  · intro path hpath
    exact (tempBlind_loadOrDefault hpath).returnsAlike h
  · intro config fabrics
    exact (tempBlind_ensureFabric config fabrics).returnsAlike h
  · intro listable
    exact identityStatus_returnsAlike h listable

end MatterTimeCtl
