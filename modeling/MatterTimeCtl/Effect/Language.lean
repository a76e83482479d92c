/-
# MatterTimeCtl.Effect.Language — the language of a program.

A `note` picks out of the calls of a program and their answers those that matter, and `p.Says note L` is that what is
noted of every run of `p`, under any answers and stopped anywhere, is a word of the language `L`.  One part after
the other says a word of the product of their languages, as long as the second can be silent: a run that is stopped
in the first part, or fails there, says nothing more.
-/
import MatterTimeCtl.Effect.Monitor
import Mathlib.Computability.Language

namespace MatterTimeCtl.Effect

universe u v w x y

section Says

variable {C : Type u} {A : C → Type v} {α β : Type w} {ε : Type w} {ι : Type x}

/-- A path of one part after the other stops in the first, or goes through it. -/
theorem Program.Path.of_bind {p : Program C A α} {f : α → Program C A β} {log : List (Entry A)}
    {q : Program C A β} (h : (p >>= f).Path log q) : (∃ p', p.Path log p') ∨
      ∃ a log₁ log₂, log = log₁ ++ log₂ ∧ p.Path log₁ (.done a) ∧ (f a).Path log₂ q := by
  induction p generalizing log with
  | done a => exact .inr ⟨a, [], log, rfl, .stop _, h⟩
  | call c next ih =>
      rw [Program.call_bind] at h
      cases h with
      | stop => exact .inl ⟨_, .stop _⟩
      | @call _ _ answer log _ rest =>
          rcases ih answer rest with ⟨p', path⟩ | ⟨a, log₁, log₂, rfl, path, path'⟩
          · exact .inl ⟨p', .call path⟩
          · exact .inr ⟨a, _, log₂, rfl, .call path, path'⟩

/-- **What is noted of every run**, under any answers and stopped anywhere. -/
def Program.Says (note : Entry A → Option ι) (L : Language ι) (p : Program C A α) : Prop :=
  ∀ log q, p.Path log q → log.filterMap note ∈ L

variable {note : Entry A → Option ι} {L L' : Language ι}

theorem Program.Says.mono {p : Program C A α} (h : p.Says note L) (hL : ∀ word ∈ L, word ∈ L') : p.Says note L' :=
  fun log q path => hL _ (h log q path)

theorem says_done {a : α} (h : [] ∈ L) : (.done a : Program C A α).Says note L := by
  intro log q path
  cases path
  exact h

/-- **One part after the other.** -/
theorem Program.Says.bind {p : Program C A α} {f : α → Program C A β} (hp : p.Says note L)
    (hf : ∀ a, (f a).Says note L') (hL : [] ∈ L') : (p >>= f).Says note (L * L') := by
  intro log q path
  rcases path.of_bind with ⟨p', path⟩ | ⟨a, log₁, log₂, rfl, path, path'⟩
  · exact Language.mem_mul.mpr ⟨_, hp log p' path, [], hL, List.append_nil _⟩
  · exact Language.mem_mul.mpr ⟨_, hp log₁ _ path, _, hf a log₂ q path', (List.filterMap_append ..).symm⟩

section Fallible

variable {x : ExceptT ε (Program C A) α} {f : α → ExceptT ε (Program C A) β}

theorem Program.Says.run_bind (hx : x.run.Says note L) (hf : ∀ a, (f a).run.Says note L') (hL : [] ∈ L') :
    (x >>= f).run.Says note (L * L') := by
  rw [Effect.run_bind]
  refine hx.bind (fun r => ?_) hL
  cases r with
  | ok a => exact hf a
  | error e => exact says_done hL

end Fallible

end Says

end MatterTimeCtl.Effect
