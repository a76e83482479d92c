/-
# MatterTimeCtl.Reference.Externals — one set of other packages.

Everything the program takes from other packages as a value, spelled out once, so that runs can be looked
at in full: the JSON of the state files, fabrics in a plain text form, the key of each fabric index, the
label rules of the fabric table, and the placing of a civil time by a search through the transitions of
the zone.  The public key is the right one for the private key 1, which is the only one used.
-/
import MatterTimeCtl.Reference.Json

namespace MatterTimeCtl.Reference

open Files Text

/-! ## Fabrics as bytes -/

/-- Bytes, each with a comma after it, up to a semicolon. -/
def bytesFormat : Format (List UInt8) :=
  ((Format.number (2 ^ 8) ',' isDigit_comma).many ';' (Format.neverStarts_number rfl)).reshape
    (fun bytes => bytes.map fun b => ⟨b.toNat, b.toNat_lt⟩)
    (fun ns => some (ns.map fun n => UInt8.ofNat n.val)) fun bytes => by
      rw [List.map_map]
      congr 1
      exact List.map_id'' (fun b => UInt8.ofNat_toNat) bytes

/-- Bytes of any number. -/
def byteArrayFormat : Format ByteArray :=
  bytesFormat.reshape (fun b => b.data.toList) (fun l => some ⟨l.toArray⟩) fun _ => rfl

/-- Bytes that are read back only if there are sixteen. -/
def ipkFormat : Format (Vector UInt8 16) :=
  bytesFormat.reshape (fun v => v.toArray.toList)
    (fun l => if h : l.length = 16 then some ⟨l.toArray, h⟩ else none) fun v => by
      rw [dif_pos (by simp)]

/-- A number of at most 16 bits, and the comma after it. -/
def u16 : Format UInt16 :=
  (Format.number (2 ^ 16) ',' isDigit_comma).reshape (fun n => ⟨n.toNat, n.toNat_lt⟩)
    (fun n => some (UInt16.ofNat n)) fun n => by rw [UInt16.ofNat_toNat]

/-- An index that is read back only if it is not 0. -/
def fabIdxFormat : Format FabIdx :=
  (Format.number (2 ^ 8) ',' isDigit_comma).reshape (fun i => ⟨i.val.toNat, i.val.toNat_lt⟩)
    (fun n => if h : UInt8.ofNat n ≠ 0 then some ⟨UInt8.ofNat n, h⟩ else none) fun i => by
      have h : UInt8.ofNat i.val.toNat = i.val := UInt8.ofNat_toNat
      rw [dif_pos (by rw [h]; exact i.property)]
      congr 2

/-- The parts of a fabric that are chosen when it is added, one after the other. -/
def seedFormat : Format FabricSeed :=
  ((((((byteArrayFormat.pair byteArrayFormat).pair u64).pair u64).pair u64).pair
    (ipkFormat.pair u16)).pair u64).reshape
      (fun s => ((((((s.secretKey, s.rcac.publicKey), s.rcac.fabricId), s.noc.nodeId), s.noc.fabricId),
        (s.ipk, s.vendorId)), s.nodeId))
      (fun p => some ⟨p.1.1.1.1.1.1, ⟨p.1.1.1.1.1.2, p.1.1.1.1.2⟩, ⟨p.1.1.1.2, p.1.1.2⟩, p.1.2.1,
        p.1.2.2, p.2⟩) fun _ => rfl

/-- A fabric: its index, what it was added with, and its label. -/
def fabricFormat : Format Fabric :=
  ((fabIdxFormat.pair seedFormat).pair Format.string).reshape (fun f => ((f.fabIdx, f.seed), f.label))
    (fun p => some ⟨p.1.1, p.1.2, p.2⟩) fun _ => rfl

/-- The blob of a fabric. -/
def encodeFabric (f : Fabric) : ByteArray := ((codec fabricFormat).encode f).toUTF8

/-- A blob that is no text, or not of this format, holds no fabric. -/
def decodeFabric (bytes : ByteArray) : Option Fabric :=
  match (String.fromUTF8? bytes).map (codec fabricFormat).decode with
  | some (.ok f) => some f
  | _ => none

theorem decode_encodeFabric (f : Fabric) : decodeFabric (encodeFabric f ++ "\n".toUTF8) = some f := by
  have htext : encodeFabric f ++ "\n".toUTF8 = ((codec fabricFormat).encode f ++ "\n").toUTF8 :=
    String.toByteArray_append.symm
  rw [decodeFabric, htext, fromUTF8?_toUTF8, Option.map_some, (codec fabricFormat).decode_encode]

/-! ## The fabric table -/

/-- Fabric blobs are under the fabric's index. -/
def fabricKey (fabIdx : FabIdx) : UInt16 := fabIdx.val.toUInt16

theorem fabricKey_injective : Function.Injective fabricKey := by
  intro i j h
  have hnat := congrArg UInt16.toNat h
  simp only [fabricKey, UInt8.toNat_toUInt16] at hnat
  exact Subtype.ext (UInt8.toNat_inj.mp hnat)

/-- All fabric indices. -/
def allIndices : List FabIdx :=
  (List.finRange 255).map fun n => ⟨UInt8.ofNat (n.val + 1), by
    intro h
    have hnat := congrArg UInt8.toNat h
    rw [UInt8.toNat_ofNat'] at hnat
    have hn := n.isLt
    simp only [UInt8.toNat_zero] at hnat
    omega⟩

theorem mem_allIndices (i : FabIdx) : i ∈ allIndices := by
  have hlt := i.val.toNat_lt
  have hne : i.val.toNat ≠ 0 := fun h => i.property (UInt8.toNat_inj.mp h)
  refine List.mem_map.mpr ⟨⟨i.val.toNat - 1, by omega⟩, List.mem_finRange _, Subtype.ext ?_⟩
  refine UInt8.toNat_inj.mp ?_
  rw [UInt8.toNat_ofNat']
  dsimp only
  omega

theorem nodup_allIndices : allIndices.Nodup := by
  refine (List.nodup_finRange 255).map fun m n h => ?_
  have hnat := congrArg (fun i : FabIdx => i.val.toNat) h
  simp only [UInt8.toNat_ofNat'] at hnat
  have hm := m.isLt
  have hn := n.isLt
  exact Fin.ext (by omega)

/-- The fabric at an index, when there is a blob for it. -/
def loadFabric (blobs : UInt16 → Option ByteArray) (i : FabIdx) : Except MatterError (Option Fabric) :=
  match blobs (fabricKey i) with
  | none => .ok none
  | some bytes =>
    match decodeFabric bytes with
    | some f => if f.fabIdx = i then .ok (some f) else .error ⟨.other "Invalid"⟩
    | none => .error ⟨.other "Invalid"⟩

/-- The fabrics at some indices; one that cannot be read fails the whole load. -/
def loadFrom (blobs : UInt16 → Option ByteArray) : List FabIdx → Except MatterError (List Fabric)
  | [] => .ok []
  | i :: is =>
    match loadFabric blobs i, loadFrom blobs is with
    | .error e, _ => .error e
    | .ok _, .error e => .error e
    | .ok f, .ok fs => .ok (f.toList ++ fs)

section Load

variable {blobs : UInt16 → Option ByteArray} {i : FabIdx} {is : List FabIdx} {f : Fabric}
  {fs : List Fabric}

theorem loadFabric_eq_some (h : loadFabric blobs i = .ok (some f)) :
    f.fabIdx = i ∧ ∃ bytes, blobs (fabricKey i) = some bytes ∧ decodeFabric bytes = some f := by
  unfold loadFabric at h
  split at h
  · cases h
  · rename_i bytes hblob
    split at h
    · rename_i g hdecode
      split at h
      · rename_i hidx
        cases h
        exact ⟨hidx, bytes, hblob, hdecode⟩
      · cases h
    · cases h

theorem loadFrom_cons (h : loadFrom blobs (i :: is) = .ok fs) :
    ∃ o fs', loadFabric blobs i = .ok o ∧ loadFrom blobs is = .ok fs' ∧ fs = o.toList ++ fs' := by
  unfold loadFrom at h
  split at h
  · cases h
  · cases h
  · rename_i o fs' ho hfs'
    cases h
    exact ⟨o, fs', ho, hfs', rfl⟩

theorem mem_loadFrom (h : loadFrom blobs is = .ok fs) :
    f ∈ fs ↔ f.fabIdx ∈ is ∧ loadFabric blobs f.fabIdx = .ok (some f) := by
  induction is generalizing fs with
  | nil =>
      cases h
      simp
  | cons i is ih =>
      obtain ⟨o, fs', ho, hfs', rfl⟩ := loadFrom_cons h
      rw [List.mem_append, Option.mem_toList, ih hfs', List.mem_cons]
      constructor
      · rintro (rfl | ⟨hmem, hload⟩)
        · obtain ⟨rfl, -⟩ := loadFabric_eq_some ho
          exact ⟨.inl rfl, ho⟩
        · exact ⟨.inr hmem, hload⟩
      · rintro ⟨rfl | hmem, hload⟩
        · rw [ho] at hload
          exact .inl (Except.ok.inj hload)
        · exact .inr ⟨hmem, hload⟩

theorem nodup_loadFrom (his : is.Nodup) (h : loadFrom blobs is = .ok fs) : fs.Nodup := by
  induction is generalizing fs with
  | nil =>
      cases h
      exact List.nodup_nil
  | cons i is ih =>
      obtain ⟨o, fs', ho, hfs', rfl⟩ := loadFrom_cons h
      obtain ⟨hi, his⟩ := List.nodup_cons.mp his
      cases o with
      | none => exact ih his hfs'
      | some f =>
          refine List.nodup_cons.mpr ⟨fun hmem => hi ?_, ih his hfs'⟩
          rw [← (loadFabric_eq_some ho).1]
          exact ((mem_loadFrom hfs').mp hmem).1

theorem loadFrom_ok (h : ∀ i ∈ is, ∃ o, loadFabric blobs i = .ok o) : ∃ fs, loadFrom blobs is = .ok fs := by
  induction is with
  | nil => exact ⟨[], rfl⟩
  | cons i is ih =>
      obtain ⟨o, ho⟩ := h i (List.mem_cons_self ..)
      obtain ⟨fs, hfs⟩ := ih fun j hj => h j (List.mem_cons_of_mem _ hj)
      exact ⟨o.toList ++ fs, by rw [loadFrom, ho, hfs]⟩

theorem mem_loadFabrics (h : loadFrom blobs allIndices = .ok fs) (f : Fabric) :
    f ∈ fs ↔ ∃ bytes, blobs (fabricKey f.fabIdx) = some bytes ∧ decodeFabric bytes = some f := by
  rw [mem_loadFrom h]
  constructor
  · exact fun hf => (loadFabric_eq_some hf.2).2
  · rintro ⟨bytes, hblob, hdecode⟩
    refine ⟨mem_allIndices _, ?_⟩
    simp [loadFabric, hblob, hdecode]

theorem loadFabrics_ok (h : ∀ i bytes, blobs (fabricKey i) = some bytes →
    ∃ f, decodeFabric bytes = some f ∧ f.fabIdx = i) : ∃ fs, loadFrom blobs allIndices = .ok fs := by
  refine loadFrom_ok fun i _ => ?_
  cases hblob : blobs (fabricKey i) with
  | none => exact ⟨none, by simp [loadFabric, hblob]⟩
  | some bytes =>
      obtain ⟨f, hdecode, hidx⟩ := h i bytes hblob
      exact ⟨some f, by simp [loadFabric, hblob, hdecode, hidx]⟩

end Load

/-- Labels are at most 32 bytes, and no two fabrics have the same. -/
def updateLabel (fabrics : List Fabric) (fabIdx : FabIdx) (label : String) :
    Except MatterError (List Fabric) :=
  if label.utf8ByteSize > fabricLabelMaxLength then .error ⟨.noSpace⟩
  else if fabrics.any fun f => f.fabIdx ≠ fabIdx ∧ f.label = label then .error ⟨.other "Invalid"⟩
  else .ok (fabrics.map (setLabel fabIdx label))

/-! ## Civil times -/

/-- The first instant from `t` on at which clocks in the zone show the civil time. -/
def firstShowing (tz : TimeZone) (civil : Int) (t : Timestamp) : Option Timestamp :=
  let candidate := Timestamp.ofNanos? ((civil - tz.toOffset t) * 1000000000)
  match _ : tz.steps.next t with
  | none => candidate.filter fun c => t ≤ c
  | some s => (candidate.filter fun c => t ≤ c ∧ c < s).or (firstShowing tz civil s)
termination_by wellFounded_gt.wrap t
decreasing_by exact tz.steps.lt_next ‹_›

section Civil

variable {tz : TimeZone} {civil : Int}

theorem firstShowing_of_next {t s : Timestamp} (h : tz.steps.next t = some s) :
    firstShowing tz civil t =
      ((Timestamp.ofNanos? ((civil - tz.toOffset t) * 1000000000)).filter fun c =>
        t ≤ c ∧ c < s).or (firstShowing tz civil s) := by
  rw [firstShowing]
  split
  · rename_i hnone
    rw [h] at hnone
    cases hnone
  · rename_i r hr
    rw [h] at hr
    cases hr
    rfl

theorem shows_of_candidate {t c : Timestamp}
    (h : Timestamp.ofNanos? ((civil - tz.toOffset t) * 1000000000) = some c)
    (same : tz.toOffset c = tz.toOffset t) : tz.Shows c civil := by
  unfold Timestamp.ofNanos? at h
  split at h
  · cases h
    unfold TimeZone.Shows
    rw [same]
    dsimp only
    omega
  · cases h

theorem candidate_of_shows {t c : Timestamp} (h : tz.Shows c civil)
    (same : tz.toOffset c = tz.toOffset t) :
    Timestamp.ofNanos? ((civil - tz.toOffset t) * 1000000000) = some c := by
  have hnanos : (civil - tz.toOffset t) * 1000000000 = c.nanos := by
    unfold TimeZone.Shows at h
    rw [same] at h
    omega
  rw [hnanos, Timestamp.ofNanos?_nanos]

theorem firstShowing_shows {t c : Timestamp} (h : firstShowing tz civil t = some c) :
    tz.Shows c civil := by
  fun_induction firstShowing tz civil t with
  | case1 t candidate hnext =>
      obtain ⟨hc, hle⟩ := Option.filter_eq_some_iff.mp h
      exact shows_of_candidate hc (tz.steps.value_of_next_none hnext (by simpa using hle))
  | case2 t candidate s hnext ih =>
      rcases Option.or_eq_some_iff.mp h with hc | ⟨-, hrest⟩
      · obtain ⟨hc, hle⟩ := Option.filter_eq_some_iff.mp hc
        obtain ⟨hle, hlt⟩ : t ≤ c ∧ c < s := by simpa using hle
        exact shows_of_candidate hc (tz.steps.value_of_lt_next hnext hle hlt)
      · exact ih hrest

theorem firstShowing_isSome {t c : Timestamp} (hle : t ≤ c) (h : tz.Shows c civil) :
    (firstShowing tz civil t).isSome := by
  fun_induction firstShowing tz civil t with
  | case1 t candidate hnext =>
      have hc : candidate = some c := candidate_of_shows h (tz.steps.value_of_next_none hnext hle)
      simp [hc, hle]
  | case2 t candidate s hnext ih =>
      rw [Option.isSome_or, Bool.or_eq_true]
      rcases lt_or_ge c s with hlt | hge
      · have hc : candidate = some c := candidate_of_shows h (tz.steps.value_of_lt_next hnext hle hlt)
        exact .inl (by simp [hc, hle, hlt])
      · exact .inr (ih hge)

end Civil

/-- The first representable instant. -/
def Timestamp.first : Timestamp := ⟨minNanos, le_rfl, by decide⟩

/-- The earlier instant of two at which clocks show the civil time. -/
def civilToZoned (tz : TimeZone) (civil : Int) : Except String Timestamp :=
  match firstShowing tz civil Timestamp.first with
  | some t => .ok t
  | none => .error "civil time does not exist in the time zone"

theorem civilToZoned_shows {tz : TimeZone} {civil : Int} (h : ∃ t, tz.Shows t civil) :
    ∃ t, civilToZoned tz civil = .ok t ∧ tz.Shows t civil := by
  obtain ⟨c, hc⟩ := h
  obtain ⟨t, ht⟩ := Option.isSome_iff_exists.mp (firstShowing_isSome (show Timestamp.first ≤ c from c.min_le) hc)
  exact ⟨t, by rw [civilToZoned, ht], firstShowing_shows ht⟩

/-! ## Instants -/

/-- The microseconds are checked before they become an instant. -/
def fromMicrosecond (micros : Int) : Option Timestamp :=
  if minMicros ≤ micros ∧ micros ≤ maxMicros then Timestamp.ofNanos? (micros * 1000) else none

theorem fromMicrosecond_exact {micros : Int} {t : Timestamp} (h : fromMicrosecond micros = some t) :
    t.nanos = micros * 1000 := by
  unfold fromMicrosecond at h
  split at h
  · unfold Timestamp.ofNanos? at h
    split at h
    · obtain rfl := Option.some.inj h
      rfl
    · cases h
  · cases h

theorem fromMicrosecond_range (micros : Int) :
    (fromMicrosecond micros).isSome = true ↔ minMicros ≤ micros ∧ micros ≤ maxMicros := by
  unfold fromMicrosecond
  split
  · rename_i range
    refine iff_of_true ?_ range
    unfold Timestamp.ofNanos?
    unfold minMicros maxMicros at range
    unfold minNanos maxNanos
    rw [dif_pos (by omega)]
    rfl
  · rename_i range
    exact iff_of_false (by simp) range

/-! ## Keys and texts -/

/-- The private key 1. -/
def keyOne : PrivKey := Vector.ofFn fun i => if i.val = 31 then 1 else 0

/-- The base point of the curve P-256, uncompressed: the public key of the private key 1. -/
def basePoint : ByteArray := ⟨#[
  0x04,
  0x6b, 0x17, 0xd1, 0xf2, 0xe1, 0x2c, 0x42, 0x47, 0xf8, 0xbc, 0xe6, 0xe5, 0x63, 0xa4, 0x40, 0xf2,
  0x77, 0x03, 0x7d, 0x81, 0x2d, 0xeb, 0x33, 0xa0, 0xf4, 0xa1, 0x39, 0x45, 0xd8, 0x98, 0xc2, 0x96,
  0x4f, 0xe3, 0x42, 0xe2, 0xfe, 0x1a, 0x7f, 0x9b, 0x8e, 0xe7, 0xeb, 0x4a, 0x7c, 0x0f, 0x9e, 0x16,
  0x2b, 0xce, 0x33, 0x57, 0x6b, 0x31, 0x5e, 0xce, 0xcb, 0xb6, 0x40, 0x68, 0x37, 0xbf, 0x51, 0xf5]⟩

/-- A public key for each private key; the first one's is the real one. -/
def publicKey (priv : PrivKey) : ByteArray := if priv = keyOne then basePoint else ⟨priv.toArray⟩

/-- The name of a variant, as derived `Debug` writes it. -/
def errorName : ErrorCode → String
  | .clusterNotFound => "ClusterNotFound"
  | .notFound => "NotFound"
  | .noSpace => "NoSpace"
  | .stdIoError => "StdIoError"
  | .other name => String.ofList (name.toList.filter Char.isAlphanum)

/-- A character of a debug rendering: quotes, backslashes and control characters are escaped. -/
def debugChar (c : Char) : List Char :=
  if c = '\t' then ['\\', 't']
  else if c = '\n' then ['\\', 'n']
  else if c = '\r' then ['\\', 'r']
  else if c.toNat = 0 then ['\\', '0']
  else if c = '"' ∨ c = '\\' then ['\\', c]
  else if c.toNat < 32 ∨ (127 ≤ c.toNat ∧ c.toNat < 160) then
    ['\\', 'u', '\x7b', (c.toNat / 16).digitChar, (c.toNat % 16).digitChar, '\x7d']
  else [c]

/-- `{:?}` of a string. -/
def strDebug (s : String) : String := String.ofList ('"' :: (s.toList.flatMap debugChar ++ ['"']))

theorem debugChar_printable (c : Char) :
    ∀ d ∈ debugChar c, 32 ≤ d.toNat ∧ ¬ (127 ≤ d.toNat ∧ d.toNat < 160) := by
  have digit : ∀ {n : Nat}, n < 16 →
      32 ≤ n.digitChar.toNat ∧ ¬ (127 ≤ n.digitChar.toNat ∧ n.digitChar.toNat < 160) := by
    intro n hn
    have hall : ∀ n : Fin 16, 32 ≤ n.val.digitChar.toNat ∧
        ¬ (127 ≤ n.val.digitChar.toNat ∧ n.val.digitChar.toNat < 160) := by decide
    exact hall ⟨n, hn⟩
  intro d hd
  unfold debugChar at hd
  split_ifs at hd with h₁ h₂ h₃ h₄ h₅ h₆
  all_goals simp only [List.mem_cons, List.not_mem_nil, or_false] at hd
  · rcases hd with rfl | rfl <;> decide
  · rcases hd with rfl | rfl <;> decide
  · rcases hd with rfl | rfl <;> decide
  · rcases hd with rfl | rfl <;> decide
  · rcases h₅ with rfl | rfl
    · rcases hd with rfl | rfl <;> decide
    · rcases hd with rfl | rfl <;> decide
  · rcases hd with rfl | rfl | rfl | rfl | rfl | rfl
    · decide
    · decide
    · decide
    · exact digit (by omega)
    · exact digit (by omega)
    · decide
  · subst hd
    omega

theorem strDebug_printable (s : String) :
    ∀ c ∈ (strDebug s).toList, 32 ≤ c.toNat ∧ ¬ (127 ≤ c.toNat ∧ c.toNat < 160) := by
  intro c hc
  simp only [strDebug, String.toList_ofList, List.mem_cons, List.mem_append, List.mem_flatMap,
    List.not_mem_nil, or_false] at hc
  rcases hc with rfl | ⟨d, -, hd⟩ | rfl
  · decide
  · exact debugChar_printable d c hd
  · decide

end Reference

/-- The other packages, spelled out. -/
def reference : Externals where
  identityJson := Reference.codec Reference.identityFormat
  devicesJson := Reference.codec Reference.devicesFormat
  fabricKey := Reference.fabricKey
  fabricKey_injective := Reference.fabricKey_injective
  encodeFabric := Reference.encodeFabric
  decodeFabric := Reference.decodeFabric
  decode_encodeFabric := Reference.decode_encodeFabric
  loadFabrics blobs := Reference.loadFrom blobs Reference.allIndices
  mem_loadFabrics := Reference.mem_loadFabrics
  nodup_loadFabrics := Reference.nodup_loadFrom Reference.nodup_allIndices
  loadFabrics_ok := Reference.loadFabrics_ok
  publicKey := Reference.publicKey
  updateLabel := Reference.updateLabel
  updateLabel_eq h := by
    unfold Reference.updateLabel at h
    split at h
    · cases h
    · split at h
      · cases h
      · exact (Except.ok.inj h).symm
  updateLabel_ok f label hlen := by
    refine ⟨[f].map (setLabel f.fabIdx label), ?_⟩
    simp [Reference.updateLabel, Nat.not_lt.mpr hlen]
  civilToZoned := Reference.civilToZoned
  civilToZoned_shows := Reference.civilToZoned_shows
  fromMicrosecond := Reference.fromMicrosecond
  fromMicrosecond_exact := Reference.fromMicrosecond_exact
  fromMicrosecond_range := Reference.fromMicrosecond_range
  matterDebug e := "Error::" ++ Reference.errorName e.code ++ "\n"
  ioDisplay
    | .notFound => "No such file or directory (os error 2)"
    | .other => "Input/output error (os error 5)"
  timestampDisplay t := String.ofList (Reference.rfc3339 t)
  timeError _ _ _ := "time of day is not in the required range"
  strDebug := Reference.strDebug
  strDebug_printable := Reference.strDebug_printable

end MatterTimeCtl
