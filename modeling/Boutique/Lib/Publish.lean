import Mathlib.Data.List.Basic

/-!
# Publishing to a stream that knows message IDs

A publisher sends an event under an ID.  The stream stores it, or finds one with the same ID among those
it remembers and only acknowledges; the acknowledgement may be lost, and the event may not arrive at all.
How long the stream remembers is left open, so an event may be stored again.
-/

namespace Publish

variable {ε ι : Type*}

/-- How a publish ends: the event is stored and acknowledged; one with its ID is known and acknowledged;
the event is stored and the reply lost; nothing arrives. -/
inductive Outcome where
  | stored | duplicate | lost | failed

/-- The events of the stream after a publish, and whether it was acknowledged. -/
def publish [DecidableEq ι] (id : ε → ι) (events : List ε) (event : ε) : Outcome → Option (List ε × Bool)
  | .stored => some (events ++ [event], true)
  | .duplicate => if id event ∈ events.map id then some (events, true) else none
  | .lost => some (events ++ [event], false)
  | .failed => some (events, false)

/-- What a publish does: the stream only grows, by the event, and what is acknowledged is there. -/
structure Published (id : ε → ι) (events : List ε) (event : ε) (result : List ε × Bool) : Prop where
  grows : events <+: result.1
  members : ∀ e ∈ result.1, e ∈ events ∨ e = event
  stored : result.2 = true → ∃ e ∈ result.1, id e = id event

variable {id : ε → ι} {events : List ε} {event : ε} {outcome : Outcome} {result : List ε × Bool}

/-- An event that is added to the stream. -/
lemma Published.append (acknowledged : Bool) :
    Published id events event (events ++ [event], acknowledged) where
  grows := List.prefix_append _ _
  members := by
    intro e he
    rcases List.mem_append.mp he with hold | hnew
    · exact Or.inl hold
    · exact Or.inr (List.mem_singleton.mp hnew)
  stored := fun _ => ⟨event, List.mem_append_right _ (List.mem_singleton_self _), rfl⟩

/-- Every outcome of a publish does that. -/
theorem published_of_publish [DecidableEq ι] (h : publish id events event outcome = some result) :
    Published id events event result := by
  cases outcome with
  | stored | lost =>
    cases h
    exact .append _
  | duplicate =>
    simp only [publish] at h
    split_ifs at h with hmem
    cases h
    exact ⟨List.prefix_rfl, fun e he => Or.inl he, fun _ => List.mem_map.mp hmem⟩
  | failed =>
    cases h
    exact ⟨List.prefix_rfl, fun e he => Or.inl he, by rintro ⟨⟩⟩

/-- The stream stays as it is, or the event is added to it. -/
lemma publish_cases [DecidableEq ι] (h : publish id events event outcome = some result) :
    result.1 = events ∨ result.1 = events ++ [event] := by
  cases outcome with
  | stored | lost =>
    cases h
    exact Or.inr rfl
  | duplicate =>
    simp only [publish] at h
    split_ifs at h
    cases h
    exact Or.inl rfl
  | failed =>
    cases h
    exact Or.inl rfl

/-- What holds of all events of the stream goes on to hold if it holds of the event. -/
lemma Published.forall_mem {P : ε → Prop} (h : Published id events event result)
    (hold : ∀ e ∈ events, P e) (hnew : P event) : ∀ e ∈ result.1, P e := by
  intro e he
  rcases h.members e he with hmem | rfl
  · exact hold e hmem
  · exact hnew

/-- An event keeps its number while the stream grows. -/
lemma getElem?_of_prefix {events' : List ε} {n : ℕ} {e : ε} (h : events <+: events')
    (he : events[n]? = some e) : events'[n]? = some e := by
  obtain ⟨rest, rfl⟩ := h
  rw [List.getElem?_append_left (List.getElem?_eq_some_iff.mp he).1, he]

end Publish
