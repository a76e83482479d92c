/-
# MatterTimeCtl.Wire.Conversation — who is talked to, in which order, and about what.

A conversation is what an operation has to say to one node: which request may come next, by what was answered so far.
It may break off anywhere, as when the node cannot be reached, and a transaction that fails ends it.  An operation on
several targets is one conversation after the other, in the order of the targets: what a run sends is a word of
the product of their languages, whatever it is answered and wherever it is stopped.
-/
import MatterTimeCtl.Effect.Language
import MatterTimeCtl.Wire.OffWire

namespace MatterTimeCtl

open Files Effect

/-! ## Contacts -/

/-- What may be said to a node, in a setting that is fixed when the conversation begins. -/
structure Conversation where
  Setting : Type
  Stage : Type
  begun : Stage
  rules : Setting → Monitor Request (fun r => Except MatterError r.Reply) Stage

namespace Conversation

variable (V : Conversation) (setting : V.Setting) (nodeId : NodeId)

/-- The conversation, as a monitor of calls. -/
def on : Monitor Call Call.Answer V.Stage where
  may stage
    | .wire n r => n = nodeId ∧ (V.rules setting).may stage r
    | .timed _ (.initiate n) => n = nodeId
    | _ => True
  see stage c a := match c, a with
    | .wire _ r, reply => (V.rules setting).see stage r reply
    | _, _ => stage

variable {V setting nodeId}

end Conversation

/-! ## Keeping to a conversation -/

section Speaks

variable {V : Conversation} {setting : V.Setting} {nodeId : NodeId} {α β : Type} {stage : V.Stage}

/-- The part keeps to the conversation, and where it returns a value, that and the stage it is at satisfy `Q`. -/
def Speaks (V : Conversation) (setting : V.Setting) (nodeId : NodeId) (x : Action α) (Q : α → V.Stage → Prop)
    (stage : V.Stage) : Prop :=
  Heeds (V.on setting nodeId) x.run (fun r stage' => ∀ a, r = .ok a → Q a stage') stage

theorem Speaks.mono {x : Action α} {Q Q' : α → V.Stage → Prop} (h : Speaks V setting nodeId x Q stage)
    (hQ : ∀ a stage', Q a stage' → Q' a stage') : Speaks V setting nodeId x Q' stage :=
  Heeds.mono h fun _ stage' hr a ha => hQ a stage' (hr a ha)

theorem Speaks.bind {x : Action α} {f : α → Action β} {R : α → V.Stage → Prop} {Q : β → V.Stage → Prop}
    (hx : Speaks V setting nodeId x R stage)
    (hf : ∀ a stage', R a stage' → Speaks V setting nodeId (f a) Q stage') :
    Speaks V setting nodeId (x >>= f) Q stage :=
  Heeds.run_bind hx (fun a stage' h => hf a stage' (h a rfl)) fun _ _ _ _ => error_ne_ok

theorem Speaks.attempt_bind {x : Action α} {f : Except Failure α → Action β} {R : α → V.Stage → Prop}
    {Q : β → V.Stage → Prop} (hx : Speaks V setting nodeId x R stage)
    (hf : ∀ r stage', (∀ a, r = .ok a → R a stage') → Speaks V setting nodeId (f r) Q stage') :
    Speaks V setting nodeId (attempt x >>= f) Q stage := by
  unfold Speaks
  rw [run_attempt_bind, heeds_bind]
  exact Heeds.mono hx fun r stage' h => hf r stage' h

end Speaks

end MatterTimeCtl
