/-
# MatterTimeCtl.Storage.KeyValue — what the key-value store gives back.

The abstract store is a map from keys to what was last stored under them.  `KvOp.apply` is how one
operation changes it; a failed one leaves it alone.  `Holds` relates the map to the files: the file of a
key has the stored bytes and one more, the newline that the helper shared with the JSON files appends.
`load` hands that byte out too, so it returns what was stored exactly where there is nothing stored.
-/
import MatterTimeCtl.Storage.Atomic
import MatterTimeCtl.Scenario

namespace MatterTimeCtl

open Files Effect

/-! ## Sequences of operations -/

/-- What the Matter stack asks of its store. -/
inductive KvOp where
  | store (key : UInt16) (data : ByteArray)
  | remove (key : UInt16)
  deriving DecidableEq

namespace KvOp

/-- Each by the method of the store. -/
def run : KvOp → Action (Except MatterError Unit)
  | .store key data => kvStore key data
  | .remove key => kvRemove key

/-- What is stored after an operation with this result. -/
def apply (stored : UInt16 → Option ByteArray) : KvOp → Except MatterError Unit → UInt16 → Option ByteArray
  | .store key data, .ok _ => Function.update stored key (some data)
  | .remove key, .ok _ => Function.update stored key none
  | _, .error _ => stored

end KvOp

/-- The operations one after the other, each with its own result. -/
def kvRun : List KvOp → Action (List (Except MatterError Unit))
  | [] => return []
  | op :: ops => do
    let result ← op.run
    let results ← kvRun ops
    return result :: results

/-- What was last stored under each key by operations with these results, and not removed since. -/
def lastStored : (UInt16 → Option ByteArray) → List KvOp → List (Except MatterError Unit) →
    UInt16 → Option ByteArray
  | stored, op :: ops, result :: results => lastStored (op.apply stored result) ops results
  | stored, _, _ => stored

/-! ## The files -/

/-- The file of each key has what is stored under it, and a newline. -/
def World.Holds (w : World) (stored : UInt16 → Option ByteArray) : Prop :=
  ∀ key, w.files (keyPath key) = (stored key).map (· ++ "\n".toUTF8)

section Holds

variable {ext : Externals} {plan : (c : Call) → c.Move → Prop} {w w' : World}
  {stored : UInt16 → Option ByteArray}

theorem World.Holds.same (h : w.Holds stored) (hs : w.Same w') : w'.Holds stored := by
  intro key
  rw [hs.at_ (isState_key key)]
  exact h key

/-- Changing the file of one key as the map changes there. -/
theorem holds_update (h : w.Holds stored) {key : UInt16} {value : Option ByteArray}
    (at_ : w'.files (keyPath key) = value.map (· ++ "\n".toUTF8))
    (elsewhere : ∀ k, k ≠ key → w'.files (keyPath k) = w.files (keyPath k)) :
    w'.Holds (Function.update stored key value) := by
  intro k
  by_cases hk : k = key
  · subst hk
    rw [Function.update_self]
    exact at_
  · rw [Function.update_of_ne hk, elsewhere k hk]
    exact h k

theorem World.Holds.put (h : w.Holds stored) (key : UInt16) (data : ByteArray) :
    (w.put (keyPath key) (data ++ "\n".toUTF8)).Holds (Function.update stored key (some data)) := by
  apply holds_update h
  · rw [World.put_files_self, Option.map_some]
  · intro k hk
    exact World.put_files_of_ne _ (fun he => hk (keyPath_injective he)) _

theorem World.Holds.remove (h : w.Holds stored) (key : UInt16) :
    (w.remove ext (keyPath key)).Holds (Function.update stored key none) := by
  apply holds_update h
  · rw [World.remove_files_self, Option.map_none]
  · intro k hk
    exact World.remove_files_of_ne _ _ fun he => hk (keyPath_injective he)

/-- **One operation**, whatever fails in it, keeps the files in line with the map. -/
theorem kvOp_spec (op : KvOp) (h : w.Holds stored) :
    Safe (planned ext plan) (fun _ => True) op.run.run
      (fun r w' => ∃ result, r = .ok result ∧ w'.Holds (op.apply stored result)) w := by
  have settled : ∀ {w₁ : World}, w₁.Holds (op.apply stored (.ok ())) →
      Safe (planned ext plan) (fun w' => w.Same w' ∨ w₁.Same w') op.run.run
        (fun r w' => ∃ result, r = .ok result ∧ Settled plan w w₁ result w') w →
      Safe (planned ext plan) (fun _ => True) op.run.run
        (fun r w' => ∃ result, r = .ok result ∧ w'.Holds (op.apply stored result)) w := by
    intro w₁ h₁ hsafe
    refine hsafe.mono (fun _ _ => trivial) ?_
    rintro r w' - ⟨result, rfl, hresult⟩
    refine ⟨result, rfl, ?_⟩
    cases result with
    | ok u => exact h₁.same hresult
    | error e =>
        rw [show op.apply stored (.error e) = stored by cases op <;> rfl]
        exact h.same hresult.1
  cases op with
  | store key data => exact settled (h.put key data) (kvStore_spec key data w)
  | remove key => exact settled (h.remove key) (kvRemove_spec key w)

/-- A whole sequence, by induction on it. -/
theorem kvRun_spec (ops : List KvOp) (h : w.Holds stored) :
    Safe (planned ext plan) (fun _ => True) (kvRun ops).run
      (fun r w' => ∃ results, r = .ok results ∧ w'.Holds (lastStored stored ops results)) w := by
  induction ops generalizing w stored with
  | nil => exact safe_run_pure.mpr ⟨trivial, [], rfl, h⟩
  | cons op ops ih =>
      refine (kvOp_spec op h).run_bind (fun _ _ => trivial) (fun result w₁ _ h₁ => ?_)
        fun e w₁ _ h₁ => ?_
      · obtain ⟨result', hr, h₁⟩ := h₁
        obtain rfl := Except.ok.inj hr
        refine (ih h₁).run_bind (fun _ _ => trivial) (fun results w₂ _ h₂ => ?_) fun e w₂ _ h₂ => ?_
        · obtain ⟨results', hr, h₂⟩ := h₂
          obtain rfl := Except.ok.inj hr
          exact safe_run_pure.mpr ⟨trivial, _, rfl, h₂⟩
        · obtain ⟨_, hr, -⟩ := h₂
          cases hr
      · obtain ⟨_, hr, -⟩ := h₁
        cases hr

end Holds

/-! ## Loading -/

/-- Reads of blobs succeed. -/
def LoadsSucceed : (c : Call) → c.Move → Prop
  | .file (.read _), m => m.choice = Io.succeed
  | _, _ => True

/-- What `load` makes of the content of a key's file. -/
def loaded (content : Option ByteArray) (bufLen : Nat) : Except MatterError (Option ByteArray) :=
  match content with
  | none => .ok none
  | some data => if data.size ≤ bufLen then .ok (some data) else .error ⟨.noSpace⟩

theorem kvLoad_spec {ext : Externals} (key : UInt16) (bufLen : Nat) (w : World) :
    Safe (planned ext LoadsSucceed) (fun _ => True) (kvLoad key bufLen).run
      (fun r _ => r = .ok (loaded (w.files (keyPath key)) bufLen)) w := by
  refine Safe.ask_bind trivial fun m hm => ?_
  obtain ⟨later, io⟩ := m
  obtain rfl : io = Io.succeed := hm.2
  have answered : (planned ext LoadsSucceed).answer (.file (.read (keyPath key))) w
      ⟨later, Io.succeed⟩ = readBytes w.files (keyPath key) := rfl
  rw [answered]
  cases hfile : w.files (keyPath key) with
  | none =>
      simp only [readBytes, hfile]
      exact safe_run_pure.mpr ⟨trivial, rfl⟩
  | some data =>
      simp only [readBytes, hfile, loaded]
      split
      · exact safe_run_pure.mpr ⟨trivial, rfl⟩
      · exact safe_run_pure.mpr ⟨trivial, rfl⟩

/-- Loading a key returns what is stored under it, with every buffer that what is stored fits in. -/
def LoadReturns (ext : Externals) (w : World) (key : UInt16) (stored : Option ByteArray) : Prop :=
  ∀ bufLen, (∀ data, stored = some data → data.size ≤ bufLen) →
    Safe (planned ext LoadsSucceed) (fun _ => True) (kvLoad key bufLen).run
      (fun r _ => r = .ok (.ok stored)) w

/-- Some run loads the key. -/
theorem kvLoad_can (ext : Externals) (key : UInt16) (bufLen : Nat) (w : World) :
    Can (planned ext LoadsSucceed) (kvLoad key bufLen).run (fun _ _ => True) w := by
  unfold kvLoad
  rw [Effect.run_bind, run_ask, Program.call_bind]
  refine can_call.mpr ⟨⟨w.clock, Io.succeed⟩, ⟨⟨le_rfl, trivial⟩, rfl⟩, ?_⟩
  have answered : (planned ext LoadsSucceed).answer (.file (.read (keyPath key))) w
      ⟨w.clock, Io.succeed⟩ = readBytes w.files (keyPath key) := rfl
  rw [answered]
  cases hfile : w.files (keyPath key) with
  | none =>
      simp only [readBytes, hfile]
      exact can_done.mpr trivial
  | some data =>
      simp only [readBytes, hfile, Program.done_bind, continueWith_ok]
      split
      · exact can_done.mpr trivial
      · exact can_done.mpr trivial

/-- What `load` returns is what it makes of the file. -/
theorem eq_loaded_of_safe {ext : Externals} {key : UInt16} {bufLen : Nat} {w : World}
    {r : Except MatterError (Option ByteArray)}
    (h : Safe (planned ext LoadsSucceed) (fun _ => True) (kvLoad key bufLen).run
      (fun s _ => s = .ok r) w) : r = loaded (w.files (keyPath key)) bufLen := by
  obtain ⟨tr, a, w', hx, -⟩ := (kvLoad_can ext key bufLen w).exec
  have h₁ := h.result hx
  have h₂ := (kvLoad_spec key bufLen w).result hx
  exact Except.ok.inj (h₁.symm.trans h₂)

theorem size_append_newline (data : ByteArray) : (data ++ "\n".toUTF8).size = data.size + 1 := by
  rw [ByteArray.size_append]
  rfl

/-- The newline does not fit in a buffer of the size of what was stored. -/
theorem loaded_tight (data : ByteArray) :
    loaded (some (data ++ "\n".toUTF8)) data.size = .error ⟨.noSpace⟩ := by
  have hsize := size_append_newline data
  rw [loaded, if_neg (by omega)]

/-- **What is loaded is what was stored, exactly where nothing is stored.**  After any operations, some of
which may have failed, on a store that was empty: a key under which nothing is stored loads as nothing,
and for any other key the load gives one byte more than was stored, or no room for it. -/
theorem load_returns_stored_iff (ext : Externals) (plan : (c : Call) → c.Move → Prop) {w w' : World}
    (nothing : ∀ key, w.files (keyPath key) = none) (ops : List KvOp)
    {tr : List (Event (planned ext plan))} {results : List (Except MatterError Unit)}
    (hx : Exec (planned ext plan) (kvRun ops).run w tr (.done (.ok results)) w') (key : UInt16) :
    (LoadReturns ext w' key (lastStored (fun _ => none) ops results key) ↔
      lastStored (fun _ => none) ops results key = none) ∧
    ∀ bufLen, Safe (planned ext LoadsSucceed) (fun _ => True) (kvLoad key bufLen).run
      (fun r _ => r = .ok (loaded
        ((lastStored (fun _ => none) ops results key).map (· ++ "\n".toUTF8)) bufLen)) w' := by
  have start : w.Holds fun _ => none := nothing
  obtain ⟨results', hr, holds⟩ := (kvRun_spec ops start).result hx
  obtain rfl := Except.ok.inj hr
  -- the file of a key holds the blob that was stored last and a line feed
  have hfile := holds key
  constructor
  · constructor
    · intro h
      cases hstored : lastStored (fun _ => none) ops results key with
      | none => rfl
      | some data =>
          rw [hstored] at h hfile
          have hload := eq_loaded_of_safe (h data.size fun d hd => by rw [Option.some.inj hd])
          rw [hfile, Option.map_some, loaded_tight] at hload
          cases hload
    · intro hstored bufLen _
      rw [hstored] at hfile ⊢
      have hload : Safe (planned ext LoadsSucceed) (fun _ => True) (kvLoad key bufLen).run _ w' :=
        kvLoad_spec key bufLen w'
      rw [hfile] at hload
      exact hload
  · intro bufLen
    have hload : Safe (planned ext LoadsSucceed) (fun _ => True) (kvLoad key bufLen).run _ w' :=
      kvLoad_spec key bufLen w'
    rw [hfile] at hload
    exact hload

namespace Scenario

/-- Store the byte 7 under key 0. -/
def storeSeven : List KvOp := [.store 0 ⟨#[7]⟩]

/-- The world after it, on a host that had nothing stored. -/
def sevenStored : World := ((anyPlan {}).play (kvRun storeSeven).run freshHost).2

theorem exec_storeSeven :
    Exec anything (kvRun storeSeven).run freshHost ((anyPlan {}).trace (kvRun storeSeven).run freshHost)
      (.done (.ok [.ok ()])) sevenStored :=
  (anyPlan {}).exec (kvRun storeSeven).run freshHost

end Scenario

open Scenario in
theorem stored_seven_loads_iff :
    (LoadReturns reference sevenStored 0 (some ⟨#[7]⟩) ↔ (some ⟨#[7]⟩ : Option ByteArray) = none) ∧
      (LoadReturns reference sevenStored 1 none ↔ (none : Option ByteArray) = none) :=
  ⟨(load_returns_stored_iff reference (fun _ _ => True) (fun _ => rfl) storeSeven exec_storeSeven 0).1,
    (load_returns_stored_iff reference (fun _ _ => True) (fun _ => rfl) storeSeven exec_storeSeven 1).1⟩

open Scenario in
/-- A stored byte does not come back: there is no room for it in a buffer of one byte. -/
theorem stored_byte_not_loaded :
    Exec anything (kvRun [.store 0 ⟨#[7]⟩]).run freshHost
        ((anyPlan {}).trace (kvRun storeSeven).run freshHost) (.done (.ok [.ok ()])) sevenStored ∧
      lastStored (fun _ => none) [.store 0 ⟨#[7]⟩] [.ok ()] 0 = some ⟨#[7]⟩ ∧
      ¬ LoadReturns reference sevenStored 0 (some ⟨#[7]⟩) := by
  refine ⟨exec_storeSeven, rfl, fun h => ?_⟩
  have hload := eq_loaded_of_safe (h 1 fun d hd => by rw [← Option.some.inj hd]; decide)
  revert hload
  decide +kernel

end MatterTimeCtl
