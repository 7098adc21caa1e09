import ClassVM.Log.Record

/-! # Journals

A journal collects the events that its threshold admits. Events below the threshold cost nothing
to keep, so a long run may be followed at any level. -/

namespace ClassVM.Log

/-- The events kept so far, the earliest first, and the threshold for further ones. -/
structure Journal (ω : Type) where
  threshold : Threshold
  events : Array ω

namespace Journal

variable {ω : Type}

/-- A journal without events. -/
def empty (threshold : Threshold) : Journal ω := ⟨threshold, #[]⟩

/-- Adds an event of a level, if the threshold admits it. -/
def note (journal : Journal ω) (level : Level) (event : ω) : Journal ω :=
  if admits journal.threshold level then { journal with events := journal.events.push event }
  else journal

end Journal

end ClassVM.Log
