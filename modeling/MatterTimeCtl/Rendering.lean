/-
# MatterTimeCtl.Rendering — what the two renderings print of clean outputs.

An output is clean when its texts have no control characters but the host's own, the labels of an inspection aside.
The human rendering of a clean output is contained whatever the labels are, for it prints them through `Debug`.  The
JSON rendering is not: a string keeps its characters from DEL on, so it is contained exactly if the labels are, as far
as those characters go (`containedText_printJson_iff`).
-/
import MatterTimeCtl.Controller.Outcomes
import MatterTimeCtl.Device.Labels

namespace MatterTimeCtl

open Text

/-! ## JSON values without control characters -/

namespace Text.Json

/-- The characters from DEL on in the strings of a value satisfy `P`. -/
def Safe (P : Char → Prop) (j : Json) : Prop := ∀ s ∈ j.strings, AllHigh P s

section Safe

variable {P : Char → Prop}

theorem safe_null : Safe P .null := List.forall_mem_nil _

theorem safe_bool (b : Bool) : Safe P (.bool b) := List.forall_mem_nil _

theorem safe_number (n : Int) : Safe P (.number n) := List.forall_mem_nil _

theorem safe_string {s : String} : Safe P (.string s) ↔ AllHigh P s := List.forall_mem_singleton

theorem safe_contained {own : Char → Prop} {s : String} (h : Contained own s) :
    Safe (fun c => isControl c = true → own c) (.string s) := safe_string.mpr fun c hc _ => h c hc

theorem safe_array {items : List Json} : Safe P (.array items) ↔ ∀ item ∈ items, Safe P item := by
  show (∀ s ∈ stringsOfItems items, AllHigh P s) ↔ _
  induction items with
  | nil => exact iff_of_true (List.forall_mem_nil _) (List.forall_mem_nil _)
  | cons item items ih =>
      rw [stringsOfItems, List.forall_mem_append, ih, List.forall_mem_cons]
      exact Iff.rfl

/-- An object whose keys are plain. -/
theorem safe_object {fields : List (String × Json)}
    (keys : (fields.map Prod.fst).all (fun key => key.toList.all fun c => c.toNat < 127) = true) :
    Safe P (.object fields) ↔ ∀ value ∈ fields.map Prod.snd, Safe P value := by
  show (∀ s ∈ stringsOfFields fields, AllHigh P s) ↔ _
  induction fields with
  | nil => exact iff_of_true (List.forall_mem_nil _) (List.forall_mem_nil _)
  | cons field fields ih =>
      obtain ⟨key, value⟩ := field
      rw [List.map_cons, List.all_cons, Bool.and_eq_true] at keys
      have plain : AllHigh P key := by
        intro c hc high
        have low := of_decide_eq_true (List.all_eq_true.mp keys.1 c hc)
        omega
      rw [stringsOfFields, List.forall_mem_cons, List.forall_mem_append, ih keys.2, and_iff_right plain,
        List.map_cons, List.forall_mem_cons]
      exact Iff.rfl

theorem safe_optional {α : Type} {f : α → Json} {o : Option α} :
    Safe P (optional f o) ↔ ∀ a, o = some a → Safe P (f a) := by
  cases o with
  | none => exact iff_of_true safe_null nofun
  | some a => exact ⟨fun h _ ha => Option.some.inj ha ▸ h, fun h => h a rfl⟩

end Safe

end Text.Json

/-! ## Outcomes as JSON -/

section Outcomes

variable {own : Char → Prop}

/-- The characters from DEL on in the value are no control characters but the host's own. -/
abbrev SafeJson (own : Char → Prop) (j : Json) : Prop := j.Safe fun c => isControl c = true → own c

theorem safe_id64 (id : UInt64) : SafeJson own (id64 id) := Json.safe_contained (contained_u64 id)

theorem safe_optContained {o : Option String} (h : OptContained own o) : SafeJson own (optional .string o) :=
  Json.safe_optional.mpr fun s hs => Json.safe_contained (h s hs)

theorem CommissionOutcome.safe_json {o : CommissionOutcome} (names : CleanNames own (o.vendorName, o.productName)) :
    SafeJson own o.json := by
  refine (Json.safe_object (by simp only [List.map_cons, List.map_nil]; decide)).mpr ?_
  simp only [List.map_cons, List.map_nil, List.forall_mem_cons]
  exact ⟨safe_id64 _, safe_id64 _, safe_optContained names.1, safe_optContained names.2, List.forall_mem_nil _⟩

theorem TimeSyncCaps.safe_json {c : TimeSyncCaps} (utcTime : OptContained own c.utcTime) : SafeJson own c.json := by
  refine (Json.safe_object (by simp only [List.map_cons, List.map_nil]; decide)).mpr ?_
  simp only [List.map_cons, List.map_nil, List.forall_mem_cons]
  exact ⟨Json.safe_number _, Json.safe_bool _, safe_optContained utcTime, Json.safe_number _, Json.safe_number _,
    List.forall_mem_nil _⟩

/-- All that can make the entry of an inspection unsafe is its label. -/
theorem InspectOutcome.safe_json_iff {o : InspectOutcome} (clean : CleanInspect own o) :
    SafeJson own o.json ↔
      ∀ label, o.ourFabricLabel = some label → AllHigh (fun c => isControl c = true → own c) label := by
  have caps : SafeJson own (optional TimeSyncCaps.json o.timeSync) :=
    Json.safe_optional.mpr fun caps hcaps => TimeSyncCaps.safe_json (clean.utcTime caps hcaps)
  have index : SafeJson own (optional (fun i => .number i.toNat) o.ourFabricIndex) :=
    Json.safe_optional.mpr fun _ _ => Json.safe_number _
  have label : SafeJson own (optional .string o.ourFabricLabel) ↔
      ∀ label, o.ourFabricLabel = some label → AllHigh (fun c => isControl c = true → own c) label := by
    simp only [SafeJson, Json.safe_optional, Json.safe_string]
  rw [← label]
  refine (Json.safe_object (by simp only [List.map_cons, List.map_nil]; decide)).trans ?_
  simp only [List.map_cons, List.map_nil, List.forall_mem_cons]
  -- every other field is clean
  constructor
  · rintro ⟨-, -, -, -, -, h, -⟩
    exact h
  · intro h
    exact ⟨safe_id64 _, safe_optContained clean.error, safe_optContained clean.names.1,
      safe_optContained clean.names.2, caps, h, index, List.forall_mem_nil _⟩

end Outcomes

/-! ## A status report -/

/-- The configuration as it is echoed. -/
structure CleanConfig (own : Char → Prop) (c : ConfigReport) : Prop where
  source : Contained own c.source.display
  storagePath : Contained own c.storagePath.display
  timezone : Contained own c.timezone
  logLevel : Contained own c.logLevel
  fabricLabel : Contained own c.fabricLabel
  output : Contained own c.output

/-- The texts of an identity's report. -/
def CleanIdentity (own : Char → Prop) : IdentityReport → Prop
  | .created fabricId controllerNodeId => Contained own fabricId ∧ Contained own controllerNodeId
  | .inconsistent reason => Contained own reason
  | .notCreated | .unreadable => True

/-- What the registry says of a device. -/
structure CleanListing (own : Char → Prop) (n : NodeListing) : Prop where
  names : CleanNames own (n.vendorName, n.productName)
  lastError : OptContained own n.lastError

/-- All texts of a status. -/
structure CleanStatus (own : Char → Prop) (r : StatusReport) : Prop where
  config : CleanConfig own r.config
  identity : CleanIdentity own r.controllerIdentity
  utcOffset : Contained own r.currentUtcOffset
  transition : ∀ d, r.nextDstTransition = some d → Contained own d.at_
  matterTime : Contained own r.matterTimeNowMicroseconds
  nodes : ∀ n ∈ r.nodes, CleanListing own n

section Status

variable {own : Char → Prop} {ext : Externals} (instants : ∀ t, Contained own (ext.timestampDisplay t))

theorem map_getD_of_mapM {l : List (Option Char)} {cs : List Char} (h : l.mapM id = some cs) (d : Char) :
    l.map (·.getD d) = cs := by
  induction l generalizing cs with
  | nil =>
      cases h
      rfl
  | cons c l ih =>
      cases c with
      | none => cases h
      | some c =>
          have rest : ((l.mapM id).bind fun cs' => some (c :: cs')) = some cs := by simpa using h
          obtain ⟨cs', hcs', heq⟩ := Option.bind_eq_some_iff.mp rest
          cases heq
          rw [List.map_cons, ih hcs', Option.getD_some]

/-- A path that is UTF-8 is displayed as it is. -/
theorem OsPath.display_of_toStr {p : OsPath} {s : String} (h : p.toStr = some s) : p.display = s := by
  obtain ⟨cs, hcs, rfl⟩ := Option.map_eq_some_iff.mp h
  rw [display, map_getD_of_mapM hcs]

theorem safe_pathJson {p : OsPath} {j : Json} (h : pathJson p = .ok j) (contained : Contained own p.display) :
    SafeJson own j := by
  unfold pathJson at h
  split at h
  · rename_i s hs
    cases h
    rw [OsPath.display_of_toStr hs] at contained
    exact Json.safe_contained contained
  · cases h

theorem ConfigReport.safe_json {c : ConfigReport} {j : Json} (clean : CleanConfig own c) (h : c.json = .ok j) :
    SafeJson own j := by
  unfold ConfigReport.json at h
  simp only [bind_eq_ok_iff] at h
  obtain ⟨source, hsource, storagePath, hstorage, h⟩ := h
  cases h
  refine (Json.safe_object (by simp only [List.map_cons, List.map_nil]; decide)).mpr ?_
  simp only [List.map_cons, List.map_nil, List.forall_mem_cons]
  exact ⟨safe_pathJson hsource clean.source, safe_pathJson hstorage clean.storagePath,
    Json.safe_contained clean.timezone, Json.safe_contained clean.logLevel, Json.safe_contained clean.fabricLabel,
    Json.safe_contained clean.output, List.forall_mem_nil _⟩

theorem IdentityReport.safe_json {i : IdentityReport} (clean : CleanIdentity own i) : SafeJson own i.json := by
  have state : ∀ {l : List Char}, l.all (fun c => 32 ≤ c.toNat && c.toNat < 127) = true →
      SafeJson own (.string (String.ofList l)) := fun h => Json.safe_contained (contained_literal h)
  cases i with
  | created fabricId controllerNodeId =>
      refine (Json.safe_object (by simp only [List.map_cons, List.map_nil]; decide)).mpr ?_
      simp only [List.map_cons, List.map_nil, List.forall_mem_cons]
      exact ⟨state rfl, Json.safe_contained clean.1, Json.safe_contained clean.2, List.forall_mem_nil _⟩
  | inconsistent reason =>
      refine (Json.safe_object (by simp only [List.map_cons, List.map_nil]; decide)).mpr ?_
      simp only [List.map_cons, List.map_nil, List.forall_mem_cons]
      exact ⟨state rfl, Json.safe_contained clean, List.forall_mem_nil _⟩
  | notCreated | unreadable =>
      refine (Json.safe_object (by decide)).mpr ?_
      simp only [List.map_cons, List.map_nil, List.forall_mem_cons]
      exact ⟨state rfl, List.forall_mem_nil _⟩

theorem DstTransition.safe_json {d : DstTransition} (clean : Contained own d.at_) : SafeJson own d.json := by
  refine (Json.safe_object (by simp only [List.map_cons, List.map_nil]; decide)).mpr ?_
  simp only [List.map_cons, List.map_nil, List.forall_mem_cons]
  exact ⟨Json.safe_contained clean, Json.safe_number _, Json.safe_number _, List.forall_mem_nil _⟩

include instants in
theorem NodeListing.safe_json {n : NodeListing} (clean : CleanListing own n) : SafeJson own (n.json ext) := by
  have instant : ∀ o : Option Timestamp, SafeJson own (optional (fun t => .string (ext.timestampDisplay t)) o) :=
    fun o => Json.safe_optional.mpr fun t _ => Json.safe_contained (instants t)
  refine (Json.safe_object (by simp only [List.map_cons, List.map_nil]; decide)).mpr ?_
  simp only [List.map_cons, List.map_nil, List.forall_mem_cons]
  exact ⟨safe_id64 _, safe_optContained clean.names.1, safe_optContained clean.names.2, instant _, instant _,
    instant _, safe_optContained clean.lastError, List.forall_mem_nil _⟩

include instants in
theorem StatusReport.safe_json {r : StatusReport} {j : Json} (clean : CleanStatus own r) (h : r.json ext = .ok j) :
    SafeJson own j := by
  unfold StatusReport.json at h
  simp only [bind_eq_ok_iff] at h
  obtain ⟨config, hconfig, h⟩ := h
  cases h
  have nodes : SafeJson own (.array (r.nodes.map (NodeListing.json ext))) := by
    refine Json.safe_array.mpr fun item hitem => ?_
    obtain ⟨n, hn, rfl⟩ := List.mem_map.mp hitem
    exact NodeListing.safe_json instants (clean.nodes n hn)
  have transition : SafeJson own (optional DstTransition.json r.nextDstTransition) :=
    Json.safe_optional.mpr fun d hd => DstTransition.safe_json (clean.transition d hd)
  refine (Json.safe_object (by simp only [List.map_cons, List.map_nil]; decide)).mpr ?_
  simp only [List.map_cons, List.map_nil, List.forall_mem_cons]
  exact ⟨ConfigReport.safe_json clean.config hconfig, Json.safe_bool _, IdentityReport.safe_json clean.identity,
    Json.safe_bool _, Json.safe_number _, Json.safe_contained clean.utcOffset, transition,
    Json.safe_contained clean.matterTime, nodes, List.forall_mem_nil _⟩

end Status

/-! ## Lines for people -/

section Human

variable {own : Char → Prop}

/-- Lines that are contained. -/
abbrev ContainedLines (own : Char → Prop) (lines : List String) : Prop := ∀ l ∈ lines, Contained own l

theorem containedLines_append {lines lines' : List String} (h : ContainedLines own lines)
    (h' : ContainedLines own lines') : ContainedLines own (lines ++ lines') :=
  List.forall_mem_append.mpr ⟨h, h'⟩

theorem containedLines_flatMap {α : Type} {f : α → List String} {items : List α}
    (h : ∀ a ∈ items, ContainedLines own (f a)) : ContainedLines own (items.flatMap f) := by
  intro l hl
  obtain ⟨a, ha, hl⟩ := List.mem_flatMap.mp hl
  exact h a ha l hl

theorem contained_deviceName {vendor product : Option String} (names : CleanNames own (vendor, product)) :
    OptContained own (deviceName vendor product) := by
  intro s hs
  unfold deviceName at hs
  dsimp only at hs
  split at hs
  · cases hs
  · cases hs
    refine contained_intercalate (contained_literal rfl) fun s hmem => ?_
    obtain ⟨name, hname, hsome⟩ := List.mem_filterMap.mp hmem
    simp only [List.mem_cons, List.not_mem_nil, or_false] at hname
    rcases hname with heq | heq
    · exact names.1 s (heq ▸ hsome)
    · exact names.2 s (heq ▸ hsome)

/-- By induction on the number, digit by digit. -/
theorem toDigits_own {base : Nat} (hb : 1 < base) (hle : base ≤ 16) (n : Nat) :
    ∀ c ∈ Nat.toDigits base n, isControl c = true → own c := by
  intro c hc
  induction n using Nat.strongRecOn with
  | ind n ih =>
      have digit : ∀ {d : Nat}, d < base → isControl d.digitChar = true → own d.digitChar := fun h =>
        digitChar_printable (fun _ => printable_own) (by omega)
      rw [Nat.toDigits_eq_if hb] at hc
      split at hc
      · rename_i hlt
        obtain rfl := List.mem_singleton.mp hc
        exact digit hlt
      · rename_i hge
        have smaller : n / base < n := Nat.div_lt_self (by omega) hb
        rcases List.mem_append.mp hc with hc | hc
        · exact ih _ smaller hc
        · obtain rfl := List.mem_singleton.mp hc
          exact digit (Nat.mod_lt _ (by omega))

theorem contained_ofList {l : List Char} (h : ∀ c ∈ l, isControl c = true → own c) :
    Contained own (String.ofList l) := by
  rw [Contained, String.toList_ofList]
  exact h

theorem contained_hexLiteral (n : Nat) : Contained own (hexLiteral n) :=
  (contained_literal rfl).append (contained_ofList (toDigits_own (by decide) (by decide) n))

theorem containedLines_caps {c : TimeSyncCaps} (utcTime : OptContained own c.utcTime) :
    ContainedLines own (renderCaps c) := by
  have feature : Contained own (if c.timeZoneFeature then " (timeZone)" else "") := by
    split
    · exact contained_literal rfl
    · exact contained_literal rfl
  simp only [ContainedLines, renderCaps, List.forall_mem_cons]
  refine ⟨contained_literal rfl, ?_, ?_, ?_, ?_, List.forall_mem_nil _⟩
  · exact ((contained_literal rfl).append (contained_hexLiteral _)).append feature
  · exact (contained_literal rfl).append (utcTime.getD (contained_literal rfl))
  · exact (contained_literal rfl).append (contained_u8 _)
  · exact (contained_literal rfl).append (contained_u8 _)

/-- An inspection is contained whatever the label is. -/
theorem containedLines_inspected (ext : Externals) {o : InspectOutcome} (clean : CleanInspect own o) :
    ContainedLines own (renderInspected ext o) := by
  have node : ContainedLines own ["Node " ++ toString o.nodeId] :=
    List.forall_mem_singleton.mpr ((contained_literal rfl).append (contained_u64 _))
  have caps : ContainedLines own ((o.timeSync.map renderCaps).getD []) := by
    cases hcaps : o.timeSync with
    | none => exact List.forall_mem_nil _
    | some caps => exact containedLines_caps (clean.utcTime caps hcaps)
  have index : Contained own ((o.ourFabricIndex.map toString).getD "?") := by
    cases o.ourFabricIndex with
    | none => exact contained_literal rfl
    | some index => exact contained_u8 index
  unfold renderInspected
  refine containedLines_append node ?_
  cases herror : o.error with
  | some error =>
      simp only [ContainedLines, List.forall_mem_cons]
      exact ⟨(contained_literal rfl).append (clean.error error herror), contained_literal rfl, List.forall_mem_nil _⟩
  | none =>
      refine containedLines_append (containedLines_append ?_ caps) ?_
      · simp only [ContainedLines, List.forall_mem_cons]
        exact ⟨(contained_literal rfl).append (clean.names.1.getD (contained_literal rfl)),
          (contained_literal rfl).append (clean.names.2.getD (contained_literal rfl)), List.forall_mem_nil _⟩
      · simp only [ContainedLines, List.forall_mem_cons]
        refine ⟨?_, contained_literal rfl, List.forall_mem_nil _⟩
        -- the label goes through `Debug` here, whatever it is
        exact (((contained_literal rfl).append (contained_debug ext _)).append (contained_literal rfl)).append index

theorem containedLines_commissioned {o : CommissionOutcome} (names : CleanNames own (o.vendorName, o.productName)) :
    ContainedLines own (renderCommissioned o) := by
  have device := contained_deviceName names
  simp only [ContainedLines, renderCommissioned, List.forall_mem_cons]
  refine ⟨contained_literal rfl, ?_, ?_, ?_, contained_literal rfl, contained_literal rfl, contained_literal rfl,
    contained_literal rfl, List.forall_mem_nil _⟩
  · exact (contained_literal rfl).append (contained_u64 _)
  · exact (contained_literal rfl).append (contained_u64 _)
  · exact (contained_literal rfl).append (device.getD (contained_literal rfl))

theorem contained_renderIdentity {i : IdentityReport} (clean : CleanIdentity own i) :
    Contained own (renderIdentity i) := by
  cases i with
  | notCreated | unreadable => exact contained_literal rfl
  | created fabricId controllerNodeId =>
      exact ((((contained_literal rfl).append clean.1).append (contained_literal rfl)).append clean.2).append
        (contained_literal rfl)
  | inconsistent reason => exact (contained_literal rfl).append clean

section Instants

variable {ext : Externals} (instants : ∀ t, Contained own (ext.timestampDisplay t))
include instants

theorem containedLines_listing {n : NodeListing} (clean : CleanListing own n) :
    ContainedLines own (renderListing ext n) := by
  have instant : ∀ o, Contained own (displayInstant ext o) := by
    intro o
    cases o with
    | none => exact contained_literal rfl
    | some t => exact instants t
  have device : Contained own ((deviceName n.vendorName n.productName).getD "(no cached device info)") :=
    (contained_deviceName clean.names).getD (contained_literal rfl)
  simp only [ContainedLines, renderListing, List.forall_mem_cons]
  refine ⟨?_, (contained_literal rfl).append (instant _), (contained_literal rfl).append (instant _),
    (contained_literal rfl).append (instant _), ?_, List.forall_mem_nil _⟩
  · exact (((contained_literal rfl).append (contained_u64 _)).append (contained_literal rfl)).append device
  · exact (contained_literal rfl).append (clean.lastError.getD (contained_literal rfl))

theorem containedLines_status {r : StatusReport} (clean : CleanStatus own r) :
    ContainedLines own (renderStatus ext r) := by
  have storage : Contained own (if r.storageInitialized then "present at " ++ r.config.storagePath.display
      else "NOT INITIALIZED") := by
    split
    · exact (contained_literal rfl).append clean.config.storagePath
    · exact contained_literal rfl
  have commissioned : Contained own (if r.nodes.isEmpty then "none recorded"
      else ", ".intercalate (r.nodes.map fun n => toString n.nodeId)) := by
    split
    · exact contained_literal rfl
    · refine contained_intercalate (contained_literal rfl) fun s hs => ?_
      obtain ⟨n, -, rfl⟩ := List.mem_map.mp hs
      exact contained_u64 _
  have ntp : Contained own (if r.hostNtpSynchronized then "yes" else "no (or not determinable on this host)") := by
    split
    · exact contained_literal rfl
    · exact contained_literal rfl
  unfold renderStatus
  -- one line per field, then the nodes
  have listings := containedLines_flatMap fun n hn => containedLines_listing instants (clean.nodes n hn)
  refine containedLines_append ?_ listings
  simp only [ContainedLines, List.forall_mem_cons]
  refine ⟨(contained_literal rfl).append clean.config.source, (contained_literal rfl).append clean.config.storagePath,
    (contained_literal rfl).append clean.config.timezone, (contained_literal rfl).append clean.config.logLevel,
    (contained_literal rfl).append clean.config.fabricLabel, (contained_literal rfl).append clean.config.output,
    (contained_literal rfl).append storage, contained_renderIdentity clean.identity,
    (contained_literal rfl).append commissioned, (contained_literal rfl).append ntp,
    (contained_literal rfl).append clean.utcOffset, ?_, ?_, List.forall_mem_nil _⟩
  · split
    · rename_i d hd
      exact ((((((contained_literal rfl).append (clean.transition d hd)).append (contained_literal rfl)).append
        (contained_utcOffset _)).append (contained_literal rfl)).append (contained_utcOffset _)).append
          (contained_literal rfl)
    · exact contained_literal rfl
  · exact ((contained_literal rfl).append clean.matterTime).append (contained_literal rfl)

end Instants

end Human

/-! ## Outputs -/

/-- What `status`, `inspect` and `commission` say, and how they fail, is contained but for the labels. -/
def CleanOutput (own : Char → Prop) : Output → Prop
  | .status report => CleanStatus own report
  | .inspection nodes => ∀ o ∈ nodes, CleanInspect own o
  | .commissioned nodes => ∀ o ∈ nodes, CleanNames own (o.vendorName, o.productName)
  | .error text => Contained own text
  | .sync _ _ _ | .decommission _ _ => False

/-- No control character is printed but the host's own; the breaks between lines are the renderer's. -/
abbrev ContainedText (own : Char → Prop) (pieces : List Piece) : Prop :=
  AllText (fun c => isControl c = true → own c) pieces

section Outputs

variable {own : Char → Prop} {ext : Externals} (instants : ∀ t, Contained own (ext.timestampDisplay t))

theorem containedText_lines {lines : List String} (h : ContainedLines own lines) :
    ContainedText own (lines.flatMap fun l => [.text l, .line 0]) := by
  induction lines with
  | nil => trivial
  | cons l lines ih =>
      obtain ⟨hl, hlines⟩ := List.forall_mem_cons.mp h
      rw [List.flatMap_cons]
      exact allText_append.mpr ⟨⟨hl, trivial⟩, ih hlines⟩

include instants in
/-- **The human rendering** is contained. -/
theorem containedText_renderHuman {output : Output} (clean : CleanOutput own output) :
    ContainedText own (output.renderHuman ext) := by
  refine containedText_lines ?_
  cases output with
  | status report => exact containedLines_status instants clean
  | inspection nodes =>
      show ContainedLines own (renderInspection ext nodes)
      unfold renderInspection
      split
      · exact List.forall_mem_singleton.mpr (contained_literal rfl)
      · exact containedLines_flatMap fun o ho => containedLines_inspected ext (clean o ho)
  | commissioned nodes => exact containedLines_flatMap fun o ho => containedLines_commissioned (clean o ho)
  | error text => exact List.forall_mem_nil _
  | sync _ _ _ => exact clean.elim
  | decommission _ _ => exact clean.elim

/-! ### As JSON -/

theorem printJson_iff {output : Output} {body : Json} (h : output.json ext = .ok body) :
    ContainedText own (output.printJson ext) ↔ SafeJson own body := by
  unfold Output.printJson
  rw [h]
  simp only [allText_append, allText_line, allText_nil, and_true]
  exact body.pretty_forall (fun _ => printable_own) 0

theorem contained_quoted {s : String} (h : Contained own s) : Contained own (quoted s) :=
  (quoted_forall (fun _ => printable_own) s).mpr fun c hc _ => h c hc

/-- The printer's fallback. -/
theorem containedText_fallback {output : Output} {cause : String} (h : output.json ext = .error cause)
    (contained : Contained own cause) : ContainedText own (output.printJson ext) := by
  unfold Output.printJson
  rw [h]
  refine allText_text.mpr ⟨?_, trivial⟩
  have text : Contained own ("serialize output: " ++ cause) := (contained_literal rfl).append contained
  have field : Contained own (quoted "error" ++ ":" ++ quoted ("serialize output: " ++ cause)) :=
    ((contained_quoted (contained_literal rfl)).append (contained_literal rfl)).append (contained_quoted text)
  refine ((contained_literal rfl).append (contained_intercalate (contained_literal rfl) ?_)).append
    (contained_literal rfl)
  exact List.forall_mem_singleton.mpr field

theorem contained_jsonError {report : StatusReport} {cause : String} (h : report.json ext = .error cause) :
    Contained own cause := by
  have path : ∀ {p : OsPath} {e : String}, pathJson p = .error e → Contained own e := by
    intro p e he
    unfold pathJson at he
    split at he
    · cases he
    · cases he
      exact contained_literal rfl
  unfold StatusReport.json ConfigReport.json at h
  cases hsource : pathJson report.config.source with
  | error e =>
      rw [hsource] at h
      cases h
      exact path hsource
  | ok source =>
      cases hstorage : pathJson report.config.storagePath with
      | error e =>
          rw [hsource, hstorage] at h
          cases h
          exact path hstorage
      | ok storagePath =>
          rw [hsource, hstorage] at h
          cases h

include instants in
/-- **The JSON rendering** is contained exactly if the labels are, from DEL on. -/
theorem containedText_printJson_iff {output : Output} (clean : CleanOutput own output) :
    ContainedText own (output.printJson ext) ↔
      ∀ label, output.HasLabel label → AllHigh (fun c => isControl c = true → own c) label := by
  cases output with
  | status report =>
      -- only an inspection has labels
      refine iff_of_true ?_ fun _ => False.elim
      cases hjson : (Output.status report).json ext with
      | ok body => exact (printJson_iff hjson).mpr (StatusReport.safe_json instants clean hjson)
      | error cause => exact containedText_fallback hjson (contained_jsonError hjson)
  | inspection nodes =>
      have printed : (Output.inspection nodes).json ext =
          .ok (.object [("nodes", .array (nodes.map InspectOutcome.json))]) := rfl
      rw [printJson_iff printed]
      refine (Json.safe_object (by simp only [List.map_cons, List.map_nil]; decide)).trans ?_
      simp only [List.map_cons, List.map_nil, List.forall_mem_singleton, Json.safe_array, List.forall_mem_map]
      constructor
      · rintro h label ⟨o, ho, hlabel⟩
        exact (InspectOutcome.safe_json_iff (clean o ho)).mp (h o ho) label hlabel
      · intro h o ho
        exact (InspectOutcome.safe_json_iff (clean o ho)).mpr fun label hlabel => h label ⟨o, ho, hlabel⟩
  | commissioned nodes =>
      refine iff_of_true ?_ fun _ => False.elim
      have printed : (Output.commissioned nodes).json ext =
          .ok (.object [("nodes", .array (nodes.map CommissionOutcome.json))]) := rfl
      rw [printJson_iff printed]
      refine (Json.safe_object (by simp only [List.map_cons, List.map_nil]; decide)).mpr ?_
      simp only [List.map_cons, List.map_nil, List.forall_mem_singleton, Json.safe_array, List.forall_mem_map]
      exact fun o ho => CommissionOutcome.safe_json (clean o ho)
  | error text =>
      refine iff_of_true ?_ fun _ => False.elim
      have printed : (Output.error text).json ext = .ok (.object [("error", .string text)]) := rfl
      rw [printJson_iff printed]
      refine (Json.safe_object (by simp only [List.map_cons, List.map_nil]; decide)).mpr ?_
      exact List.forall_mem_singleton.mpr (Json.safe_contained clean)
  | sync _ _ _ => exact clean.elim
  | decommission _ _ => exact clean.elim

end Outputs

end MatterTimeCtl
