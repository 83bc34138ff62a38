import ProfilingSession.Proofs.Document.Parts
import ProfilingSession.Specification.Reading

/-!
# The events of a document

A document has events if it is a mapping whose first entry under `events` is a mapping.
`eventsOf_eq_ok_iff` and `eventsOf_eq_error_iff` say what reading them gives, and why there are
none.
-/

namespace ProfilingSession.Specification

open Document (Inside keys)

variable {document : Document} {kind : Kind} {events : List (String × Document)}

/-- A document is a mapping, and its first entry under `events` is a mapping with these entries. -/
def HasEvents (document : Document) (events : List (String × Document)) : Prop :=
  ∃ before after, document = .mapping (before ++ ("events", .mapping events) :: after) ∧
    "events" ∉ keys before

/-- Why a document has no events: it is no mapping with such a key, or the first value under it is
no mapping. -/
inductive Eventless (kind : Kind) (document : Document) : Problem → Prop where
  | missing (absent : ∀ entries, document = .mapping entries → "events" ∉ keys entries) :
    Eventless kind document (.noEvents kind)
  | notMapping {before after : List (String × Document)} {value : Document}
    (shape : document = .mapping (before ++ ("events", value) :: after))
    (first : "events" ∉ keys before) (other : ∀ entries, value ≠ .mapping entries) :
    Eventless kind document (.eventsNotMapping kind)

theorem hasEvents_iff :
    HasEvents document events ↔ document.get? "events" = some (.mapping events) :=
  Document.get?_eq_some_iff.symm

theorem HasEvents.inside (h : HasEvents document events) : Inside (.mapping events) document := by
  obtain ⟨before, after, rfl, -⟩ := h
  exact .value (List.mem_append_right before List.mem_cons_self) .whole

theorem eventsOf_eq_ok_iff : eventsOf kind document = .ok events ↔ HasEvents document events := by
  rw [hasEvents_iff]
  unfold eventsOf
  split
  · next none' => simp [none']
  · next entries found => simp [found]
  · next value other found =>
    have ne : value ≠ .mapping events := other events
    simp [found, ne]

theorem eventsOf_eq_error_iff {problem : Problem} :
    eventsOf kind document = .error problem ↔ Eventless kind document problem := by
  constructor
  · intro failed
    unfold eventsOf at failed
    split at failed
    · next none' =>
      cases failed
      exact .missing (Document.get?_eq_none_iff.mp none')
    · cases failed
    · next value other found =>
      cases failed
      obtain ⟨before, after, shape, first⟩ := Document.get?_eq_some_iff.mp found
      exact .notMapping shape first other
  · intro without
    unfold eventsOf
    cases without with
    | missing absent => rw [Document.get?_eq_none_iff.mpr absent]
    | notMapping shape first other =>
      rw [Document.get?_eq_some_iff.mpr ⟨_, _, shape, first⟩]
      split
      · next none' => cases none'
      · next entries same => exact absurd (Option.some.inj same) (other entries)
      · rfl

end ProfilingSession.Specification
