/-
# MatterTimeCtl.Wire.Targets — whom a command talks to.

A command that is about registered devices reads devices.json once before it runs anything, and talks to the devices
it names, or to the one of `--node`, and to no other: it has one conversation with each, in the order of the registry.
A commission talks to the device that has just joined, `status` to nobody.
-/
import MatterTimeCtl.Storage.Interleaving
import MatterTimeCtl.Wire.Protocol

namespace MatterTimeCtl

open Files Effect

/-! ## Operations -/

section Operations

variable (ext : Externals) (ctx : Ctx) {α β : Type} {L L' : Language (NodeId × Option Said)}

end Operations

/-! ## Runs -/

section Runs

variable {ext : Externals} {config : Config} {L : Language (NodeId × Option Said)}

end Runs

/-! ## A device that has just joined -/

section Joined

end Joined

/-! ## Commands -/

section Commands

variable {ext : Externals} {config : Config} {log log' : List (Entry Call.Answer)} {q : Prog (Except Failure Output)}

end Commands

end MatterTimeCtl
