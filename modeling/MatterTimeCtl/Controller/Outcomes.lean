/-
# MatterTimeCtl.Controller.Outcomes — what texts the operations return.

The texts of an outcome come from the device (its names and the label of our fabric there), from a failure, or from
the program.  The names are sanitized on their way; the label is handed on as it was read.
-/
import MatterTimeCtl.Controller.Failures

namespace MatterTimeCtl

open Effect

section Outcomes

variable {own : Char → Prop} (ext : Externals) (ctx : Ctx)

/-! ## Names -/

theorem delivers_readVendorName (nodeId : NodeId) : Delivers (Contained own) (readVendorName ext ctx nodeId) :=
  delivers_bind fun _ => delivers_bind fun _ => delivers_pure (contained_sanitize _)

theorem delivers_readProductName (nodeId : NodeId) : Delivers (Contained own) (readProductName ext ctx nodeId) :=
  delivers_bind fun _ => delivers_bind fun _ => delivers_pure (contained_sanitize _)

/-- The names of a device. -/
def CleanNames (own : Char → Prop) (names : Option String × Option String) : Prop :=
  OptContained own names.1 ∧ OptContained own names.2

theorem contained_okOf {r : Except Failure String} (h : ∀ a, r = .ok a → Contained own a) :
    OptContained own (okOf r) := by
  cases r with
  | ok a => exact contained_optSome (h a rfl)
  | error e => exact contained_optNone

theorem delivers_readDeviceNames (nodeId : NodeId) :
    Delivers (CleanNames own) (readDeviceNames ext ctx nodeId) := by
  have vendor : Delivers (Contained own) _ := delivers_readVendorName ext ctx nodeId
  have product : Delivers (Contained own) _ := delivers_readProductName ext ctx nodeId
  refine delivers_attempt_bind vendor fun vendorName hvendor => ?_
  refine delivers_attempt_bind product fun productName hproduct => ?_
  exact delivers_pure ⟨contained_okOf hvendor, contained_okOf hproduct⟩

/-! ## Commission -/

theorem delivers_commissionOp (onboarding : Onboarding) :
    Delivers (fun o => CleanNames own (o.vendorName, o.productName)) (CommissionOp.run ext ctx onboarding) := by
  refine delivers_bind fun deviceNodeId => ?_
  have read : Delivers (CleanNames own) _ := delivers_readDeviceNames ext ctx deviceNodeId
  refine read.bind fun (vendorName, productName) names => ?_
  exact delivers_bind fun _ => delivers_bind fun _ => delivers_pure names

/-! ## Sync -/

/-- A sync that comes to its end has no error to report, unless the device was skipped. -/
theorem delivers_syncOne (nodeId : NodeId) (manualTime : Option MatterMicros) :
    Delivers (fun o => OptContained own o.error) (syncOne ext ctx nodeId manualTime) := by
  refine delivers_bind fun nowTs => delivers_bind fun featureMap => ?_
  cases featureMap with
  | none => exact delivers_pure (contained_optSome (contained_literal rfl))
  | some featureMap =>
      refine delivers_bind fun deviceBefore => delivers_bind fun now => delivers_bind fun utcWrite => ?_
      refine delivers_bind fun (timeZoneWritten, dstEntriesWritten) => delivers_bind fun afterAssessment => ?_
      exact delivers_bind fun _ => delivers_pure contained_optNone

variable {ext ctx}

theorem contained_outcomeOf {nodeId : NodeId}
    {r : Except Failure SyncOutcome} (value : ∀ o, r = .ok o → OptContained own o.error)
    (error : ∀ e, r = .error e → RendersContained own ext ctx.config e) :
    OptContained own (SyncOp.outcomeOf ext ctx nodeId r).error := by
  cases r with
  | ok o => exact value o rfl
  | error e => exact contained_optSome (error e rfl)

/-! ## Inspect -/

/-- The texts of an outcome, but for the label. -/
structure CleanInspect (own : Char → Prop) (o : InspectOutcome) : Prop where
  error : OptContained own o.error
  names : CleanNames own (o.vendorName, o.productName)
  utcTime : ∀ caps, o.timeSync = some caps → OptContained own caps.utcTime

theorem HostTexts.micros {config : Config} (host : HostTexts own ext config) (m : MatterMicros) :
    Contained own (m.display ext.fromMicrosecond ext.timestampDisplay) := by
  unfold MatterMicros.display
  split
  · exact host.timestampDisplay _
  · exact (contained_nat _).append (contained_literal rfl)

theorem delivers_inspectOne (host : HostTexts own ext ctx.config) (nodeId : NodeId) :
    Delivers (CleanInspect own) (inspectOne ext ctx nodeId) := by
  have read : Delivers (CleanNames own) _ := delivers_readDeviceNames ext ctx nodeId
  refine read.bind fun (vendorName, productName) names => ?_
  refine delivers_bind fun featureMap => delivers_bind fun utcTime => delivers_bind fun granularity => ?_
  refine delivers_bind fun dstMax => delivers_bind fun (label, index) => ?_
  -- nothing is known of the label
  refine delivers_pure ⟨contained_optNone, names, ?_⟩
  rintro _ ⟨⟩ s hs
  obtain ⟨m, -, rfl⟩ := Option.map_eq_some_iff.mp hs
  exact host.micros m

theorem delivers_inspectOp (host : HostTexts own ext ctx.config) (targets : List NodeId) :
    Delivers (fun nodes => ∀ o ∈ nodes, CleanInspect own o) (InspectOp.run ext ctx targets) := by
  induction targets with
  | nil => exact delivers_pure (List.forall_mem_nil _)
  | cons nodeId targets ih =>
      have step : Delivers (CleanInspect own) (InspectOp.step ext ctx nodeId) := by
        have fails := failsOnly_inspectOne host.failureClass ext ctx nodeId
        refine delivers_attempt_bind (Program.Returns.and (delivers_inspectOne host nodeId) fails) fun r hr => ?_
        -- the outcome of a device that failed has the rendered failure and no names
        cases r with
        | ok o => exact delivers_pure (hr.1 o rfl)
        | error e =>
            refine delivers_bind fun _ => delivers_pure ⟨contained_optSome (hr.2 e rfl), ?_, nofun⟩
            exact ⟨contained_optNone, contained_optNone⟩
      refine step.bind fun outcome first => ih.bind fun outcomes rest => ?_
      exact delivers_pure (List.forall_mem_cons.mpr ⟨first, rest⟩)

end Outcomes

end MatterTimeCtl
