/-
# MatterTimeCtl.Wire.Protocol — what each operation has to say to a node.

The four conversations, as automata over requests and their answers, and that the operations keep to them.  A sync
sets a clock only after it has read it, sets the zone only where there is the feature, sends a DST list only
where it was asked for and only as long as there is room for, reads back what it set, and changes the label last and
only if it is another one.  A decommission removes the fabric entry that it has just read.  An inspection only
reads, and so does a commissioning once the device has joined.
-/
import MatterTimeCtl.TzRefine
import MatterTimeCtl.Wire.Conversation

namespace MatterTimeCtl

open Files Effect

/-! ## The conversations -/

section Keeping

variable (ext : Externals) (ctx : Ctx) (nodeId : NodeId)

end Keeping

end MatterTimeCtl
