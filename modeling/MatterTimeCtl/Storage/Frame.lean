/-
# MatterTimeCtl.Storage.Frame — the state files, and which calls leave them alone.

What a later run can see of an earlier one are three kinds of files: identity.json, devices.json and the
fabric blobs.  `World.Same w w'` says that these files and the history are the same in both worlds; the
temporary files, the lock file, the log, the clock and the devices may differ.  Calls that are `Quiet`
lead to the same world in this sense, and so does every part of the program that makes no others.
-/
import MatterTimeCtl.World
import MatterTimeCtl.Controller.Footprint

namespace MatterTimeCtl

open Files Effect

/-! ## State files and scratch files -/

/-- The files that carry state from one run to the next. -/
def IsState (p : Path) : Prop :=
  p = identityPath ∨ p = devicesPath ∨ ∃ key, p = keyPath key

theorem isState_identity : IsState identityPath := .inl rfl

theorem isState_devices : IsState devicesPath := .inr (.inl rfl)

theorem isState_key (key : UInt16) : IsState (keyPath key) := .inr (.inr ⟨key, rfl⟩)

theorem keyPath_dir (key : UInt16) : (keyPath key).dir = .matter := rfl

theorem identity_ne_key (key : UInt16) : identityPath ≠ keyPath key := by
  intro h
  exact absurd (congrArg Path.dir h) (by simp [identityPath, keyPath])

theorem devices_ne_key (key : UInt16) : devicesPath ≠ keyPath key := by
  intro h
  exact absurd (congrArg Path.dir h) (by simp [devicesPath, keyPath])

theorem devices_ne_identity : devicesPath ≠ identityPath := by decide

theorem not_isState_lock : ¬ IsState lockPath := by
  rintro (h | h | ⟨key, h⟩)
  · exact absurd h (by decide)
  · exact absurd h (by decide)
  · exact absurd (congrArg Path.dir h) (by simp [lockPath, keyPath])

/-! ### Key file names -/

theorem digitChar_injOn {a b : Nat} (ha : a < 16) (hb : b < 16) (h : a.digitChar = b.digitChar) :
    a = b := by
  have key : ∀ a b : Fin 16, a.val.digitChar = b.val.digitChar → a = b := by decide
  exact congrArg Fin.val (key ⟨a, ha⟩ ⟨b, hb⟩ h)

theorem digitChar_ne_dot {a : Nat} (ha : a < 16) : a.digitChar ≠ '.' := by
  have key : ∀ a : Fin 16, a.val.digitChar ≠ '.' := by decide
  exact key ⟨a, ha⟩

/-- Different keys are kept in different files. -/
theorem keyPath_injective : Function.Injective keyPath := by
  intro k k' h
  have hname : ("k_" ++ hexEncode [(k / 256).toUInt8, k.toUInt8]).toList =
      ("k_" ++ hexEncode [(k' / 256).toUInt8, k'.toUInt8]).toList :=
    congrArg String.toList (congrArg Path.name h)
  have hk := k.toNat_lt
  have hk' := k'.toNat_lt
  simp only [hexEncode, hexByte, List.flatMap_cons, List.flatMap_nil, String.toList_append,
    String.toList_ofList, List.append_cancel_left_eq, List.cons_append, List.nil_append,
    List.cons.injEq, and_true, UInt16.toNat_toUInt8, UInt16.toNat_div, UInt16.reduceToNat] at hname
  obtain ⟨h₃, h₂, h₁, h₀⟩ := hname
  have e₃ := digitChar_injOn (by omega) (by omega) h₃
  have e₂ := digitChar_injOn (by omega) (by omega) h₂
  have e₁ := digitChar_injOn (by omega) (by omega) h₁
  have e₀ := digitChar_injOn (by omega) (by omega) h₀
  exact UInt16.toNat_inj.mp (by omega)

theorem fileStem_of_no_dot {name : String} (h : '.' ∉ name.toList) : fileStem name = name := by
  have hdrop : name.toList.reverse.dropWhile (· ≠ '.') = [] := by
    rw [List.dropWhile_eq_nil_iff]
    intro c hc
    have hne : c ≠ '.' := by
      rintro rfl
      exact h (List.mem_reverse.mp hc)
    simpa using hne
  unfold fileStem
  rw [hdrop]

theorem keyPath_tmp (key : UInt16) :
    withExtension (keyPath key) "tmp" = ⟨.matter, (keyPath key).name ++ ".tmp"⟩ := by
  have hdot : '.' ∉ (keyPath key).name.toList := by
    have hk := key.toNat_lt
    simp only [keyPath, hexEncode, hexByte, List.flatMap_cons, List.flatMap_nil,
      String.toList_append, String.toList_ofList, List.mem_append, List.mem_cons,
      List.not_mem_nil, or_false, not_or]
    refine ⟨by decide, ⟨⟨?_, ?_⟩, ?_, ?_⟩⟩
    all_goals
      refine (digitChar_ne_dot ?_).symm
      rw [UInt16.toNat_toUInt8]
      omega
  simp only [withExtension, fileStem_of_no_dot hdot, keyPath_dir]
  rw [String.append_assoc]
  rfl

theorem length_keyPath_name (key : UInt16) : (keyPath key).name.toList.length = 6 := by
  simp [keyPath, hexEncode, hexByte]

/-- The temporary file of a key is not the file of any key. -/
theorem not_isState_keyTmp (key : UInt16) : ¬ IsState (withExtension (keyPath key) "tmp") := by
  rw [keyPath_tmp]
  rintro (h | h | ⟨key', h⟩)
  · exact absurd (congrArg Path.dir h) (by simp [identityPath])
  · exact absurd (congrArg Path.dir h) (by simp [devicesPath])
  · have hlen := congrArg (fun p : Path => p.name.toList.length) h
    simp [length_keyPath_name] at hlen

theorem not_isState_of_storage {name : String} (hi : name ≠ "identity.json")
    (hd : name ≠ "devices.json") : ¬ IsState ⟨.storage, name⟩ := by
  rintro (h | h | ⟨key, h⟩)
  · exact hi (congrArg Path.name h)
  · exact hd (congrArg Path.name h)
  · exact absurd (congrArg Path.dir h) (by simp [keyPath])

theorem not_isState_identityTmp : ¬ IsState (withExtension identityPath "json.tmp") :=
  not_isState_of_storage (by decide) (by decide)

theorem not_isState_devicesTmp : ¬ IsState (withExtension devicesPath "json.tmp") :=
  not_isState_of_storage (by decide) (by decide)

/-! ## Worlds that look the same to a later run -/

/-- The files at the paths in `S` and the history are the same. -/
structure World.SameOn (S : Path → Prop) (w w' : World) : Prop where
  files : AgreeOn S w.files w'.files
  history : w'.history = w.history

/-- The state files and the history are the same. -/
abbrev World.Same (w w' : World) : Prop := w.SameOn IsState w'

namespace World.SameOn

variable {S : Path → Prop} {w w' w'' : World}

theorem refl (w : World) : w.SameOn S w := ⟨.refl _ _, rfl⟩

theorem trans (h : w.SameOn S w') (h' : w'.SameOn S w'') : w.SameOn S w'' :=
  ⟨h.files.trans h'.files, h'.history.trans h.history⟩

theorem symm (h : w.SameOn S w') : w'.SameOn S w := ⟨h.files.symm, h.history.symm⟩

theorem at_ (h : w.SameOn S w') {p : Path} (hp : S p) : w'.files p = w.files p := h.files p hp

theorem blobs (h : w.Same w') : blobsOf w'.files = blobsOf w.files :=
  funext fun key => h.at_ (isState_key key)

end World.SameOn

/-- Calls that leave the files at the paths in `S` and the history alone. -/
def KeepsOn (S : Path → Prop) : Call → Prop
  | .file (.pathExists _) | .file (.readToString _) | .file (.read _) | .file (.syncAll _) => True
  | .file (.openTruncate p) | .file (.writeAll p _) => ¬ S p
  | .file (.rename _ _) | .file (.removeFile _) => False
  | .timed _ (.commission _ _ _) | .timed _ (.completeViaCase _ _ _) | .unlock _ _ => False
  | _ => True

/-- Calls that leave the state files and the history alone. -/
abbrev Quiet : Call → Prop := KeepsOn IsState

theorem Talks.quiet {c : Call} (h : Talk c) : Quiet c := by
  unfold Talk Talks at h
  split at h <;> trivial

theorem Outside.quiet {c : Call} (h : Outside c) : Quiet c := by
  unfold Outside at h
  split at h <;> first | trivial | exact h.elim | exact h ▸ not_isState_lock

section Moves

variable {ext : Externals} {plan : (c : Call) → c.Move → Prop}

variable {S : Path → Prop}

theorem sameOn_dirEffect (w : World) (c : DirCall) (choice : c.Choice) :
    w.SameOn S (dirEffect w c choice) := by
  unfold dirEffect
  split <;> exact ⟨.refl _ _, rfl⟩

theorem sameOn_wireEffect (w : World) (nodeId : NodeId) (r : Request)
    (tx : Transaction (Except MatterError r.Reply)) : w.SameOn S (wireEffect w nodeId r tx) := by
  unfold wireEffect
  split <;> exact ⟨.refl _ _, rfl⟩

theorem same_clock {w w' : World} (h : w.Same w') (t : Timestamp) :
    w.Same { w' with clock := t } := ⟨h.files, h.history⟩

/-- A call that keeps the files at some paths leads to a world that is the same there. -/
theorem keepsOn_next {c : Call} (hc : KeepsOn S c) (w : World) (m : c.Move) :
    w.SameOn S ((planned ext plan).next c w m) := by
  obtain ⟨later, choice⟩ := m
  suffices h : w.SameOn S (callEffect ext w later c choice) from ⟨h.files, h.history⟩
  cases c with
  | file c =>
      cases c with
      | pathExists p | readToString p | read p | syncAll p => cases choice <;> exact .refl w
      | openTruncate p =>
          cases choice with
          | succeed => exact ⟨(AgreeOn.refl _ _).update_scratch hc _, rfl⟩
          | fail n => exact .refl w
      | writeAll p bytes =>
          cases choice with
          | succeed => exact ⟨(AgreeOn.refl _ _).update_scratch hc _, rfl⟩
          | fail n => exact ⟨(AgreeOn.refl _ _).update_scratch hc _, rfl⟩
      | rename s t => exact hc.elim
      | removeFile p => exact hc.elim
  | dir c => exact sameOn_dirEffect w c choice
  | timed secs future =>
      cases future with
      | initiate nodeId => exact .refl w
      | commission peer passcode nodeId => exact hc.elim
      | completeViaCase peer fabric nodeId => exact hc.elim
  | unlock op result => exact hc.elim
  | wire nodeId r => exact sameOn_wireEffect w _ _ _
  | _ => exact ⟨.refl _ _, rfl⟩

/-- **A quiet call** leads to a world that looks the same. -/
theorem quiet_next {c : Call} (hc : Quiet c) (w : World) (m : c.Move) :
    w.Same ((planned ext plan).next c w m) := keepsOn_next hc w m

/-- A part of the program that only makes quiet calls. -/
theorem safe_quiet {α : Type} {p : Prog α} (hp : p.Uses Quiet) (w : World) :
    Safe (planned ext plan) w.Same p (fun _ => w.Same) w :=
  .of_uses hp (fun _ w' m hc _ h => h.trans (quiet_next hc w' m)) (.refl w)

theorem safe_talk {α : Type} {p : Prog α} (hp : p.Uses Talk) (w : World) :
    Safe (planned ext plan) w.Same p (fun _ => w.Same) w :=
  safe_quiet (hp.mono fun _ => Talks.quiet) w

theorem log_spec (level : LogLevel) (message : String) (w : World) :
    Safe (planned ext plan) w.Same (ask (.log level message)).run (fun r _ => r = .ok ()) w :=
  Safe.ask (.refl w) fun m _ => ⟨quiet_next (by trivial) w m, rfl⟩

theorem logWarn_spec (message : String) (w : World) :
    Safe (planned ext plan) w.Same (logWarn message).run (fun r _ => r = .ok ()) w :=
  log_spec .warn message w

end Moves

end MatterTimeCtl
