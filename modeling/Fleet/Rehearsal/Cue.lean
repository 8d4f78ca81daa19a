/-!
# Cues

The prepared answers of a scripted collaborator. They are used up one per question, and the last
one is given again and again.
-/

namespace Fleet.Rehearsal

/-- Prepared answers, the next one first. -/
structure Cue (α : Type) where
  answers : List α := []

namespace Cue

variable {α : Type}

/-- The next answer, if any was prepared, and what remains. -/
def next : Cue α → Option α × Cue α
  | ⟨[]⟩ => (none, ⟨[]⟩)
  | ⟨[last]⟩ => (some last, ⟨[last]⟩)
  | ⟨answer :: rest⟩ => (some answer, ⟨rest⟩)

end Cue

end Fleet.Rehearsal
