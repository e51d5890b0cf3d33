import Boutique.Lib.CasGate
import Boutique.Storefront.Loops
import Mathlib.Data.Prod.Lex

/-!
# Versioned records converge

Carts, quotes and the records of `updateJSON` keep the event with the largest version, in whatever
order the events are delivered to however many replicas.
-/

namespace Boutique.Storefront

open CasLoop

/-- The events of a key: the message ID determines the event, and so does the version. -/
structure Versioned {ι K : Type} (eventId : ι → String) (version : ι → K) (P : ι → Prop) : Prop where
  ids : ∀ e e', P e → P e' → eventId e = eventId e' → e = e'
  versions : ∀ e e', P e → P e' → version e = version e' → e = e'

/-- The order of quotes: by cart version, then by time. -/
def CartQuoteView.key (view : CartQuoteView) : ℕ ×ₗ Time := toLex (view.cartVersion, view.updatedAt)

/-- The test of `updateCartQuote` compares the keys. -/
lemma CartQuoteView.key_le_iff (u v : CartQuoteView) : u.key ≤ v.key ↔
    u.cartVersion < v.cartVersion ∨ u.cartVersion = v.cartVersion ∧ u.updatedAt ≤ v.updatedAt :=
  Prod.Lex.toLex_le_toLex

/-- `updateJSON` is a gate. -/
lemma jsonLoop_gate {T : Type} {currentVersion : T → ℕ} {currentSourceEventId : T → String}
    {P : JsonCall T → Prop}
    (hformed : ∀ call, P call → call.WellFormed currentVersion currentSourceEventId)
    (hids : ∀ e e', P e → P e' → e.incomingSourceEventId = e'.incomingSourceEventId → e = e') :
    Gate (jsonLoop currentVersion currentSourceEventId) JsonCall.next currentVersion P where
  keep := by
    intro call v next w result hdecide
    cases v with
    | none =>
      cases hdecide
      rfl
    | some v =>
      simp only [jsonLoop] at hdecide
      split_ifs at hdecide
      cases hdecide
      rfl
  absent := fun _ => rfl
  present := by
    intro e e' he he'
    obtain ⟨hversion, hsource⟩ := hformed e he
    obtain ⟨hversion', hsource'⟩ := hformed e' he'
    simp only [jsonLoop, hsource', hversion', hversion]
    by_cases hid : e'.incomingSourceEventId = e.incomingSourceEventId
    · -- the stored event is the same one
      obtain rfl := hids e' e he' he hid
      simp
    · simp [hid]

/-- `updateCart` is a gate. -/
lemma cartLoop_gate {P : CartView → Prop}
    (hids : ∀ e e', P e → P e' → e.sourceEventId = e'.sourceEventId → e = e') :
    Gate cartLoop id (fun view : CartView => view.cart.cartVersion) P where
  keep := by
    intro call v next w result hdecide
    cases v with
    | none =>
      cases hdecide
      rfl
    | some v =>
      simp only [cartLoop] at hdecide
      split_ifs at hdecide
      cases hdecide
      rfl
  absent := fun _ => rfl
  present := by
    intro e e' he he'
    simp only [cartLoop, id_eq]
    by_cases hid : e'.sourceEventId = e.sourceEventId
    · obtain rfl := hids e' e he' he hid
      simp
    · simp [hid]

/-- `updateCartQuote` is a gate. -/
lemma cartQuoteLoop_gate {P : CartQuoteView → Prop}
    (hids : ∀ e e', P e → P e' → e.sourceEventId = e'.sourceEventId → e = e') :
    Gate cartQuoteLoop id CartQuoteView.key P where
  keep := by
    intro call v next w result hdecide
    cases v with
    | none =>
      cases hdecide
      rfl
    | some v =>
      simp only [cartQuoteLoop] at hdecide
      split_ifs at hdecide
      cases hdecide
      rfl
  absent := fun _ => rfl
  present := by
    intro e e' he he'
    simp only [cartQuoteLoop, id_eq, CartQuoteView.key_le_iff]
    by_cases hid : e'.sourceEventId = e.sourceEventId
    · obtain rfl := hids e' e he' he hid
      simp
    · simp [hid]

/-- Every run of the three loops on events with different versions converges to the largest one. -/
theorem versioned_projections_converge {κ R : Type} [DecidableEq κ] [DecidableEq R] (N : Net κ R) :
    (∀ (T : Type) (currentVersion : T → ℕ) (currentSourceEventId : T → String)
      (acts : List (CasLoop.Action κ R (JsonCall T))) (s : State κ R (JsonCall T) T Unit),
      (∀ call, Delivered acts call → call.WellFormed currentVersion currentSourceEventId) →
      Versioned JsonCall.incomingSourceEventId JsonCall.incomingVersion (Delivered acts) →
      StepSystem.run (CasLoop.step (jsonLoop currentVersion currentSourceEventId) N) {} acts =
        some s →
      Converges JsonCall.next currentVersion acts s) ∧
    (∀ (acts : List (CasLoop.Action κ R CartView)) (s : State κ R CartView CartView Unit),
      Versioned (fun view => view.sourceEventId) (fun view => view.cart.cartVersion)
        (Delivered acts) →
      StepSystem.run (CasLoop.step cartLoop N) {} acts = some s →
      Converges id (fun view : CartView => view.cart.cartVersion) acts s) ∧
    ∀ (acts : List (CasLoop.Action κ R CartQuoteView))
      (s : State κ R CartQuoteView CartQuoteView Unit),
      Versioned (fun view => view.sourceEventId) CartQuoteView.key (Delivered acts) →
      StepSystem.run (CasLoop.step cartQuoteLoop N) {} acts = some s →
      Converges id CartQuoteView.key acts s := by
  refine ⟨fun T currentVersion currentSourceEventId acts s hformed h hrun => ?_,
    fun acts s h hrun => ?_, fun acts s h hrun => ?_⟩
  · refine (jsonLoop_gate hformed h.ids).converges (fun e e' he he' hkey => ?_) hrun
    rw [(hformed e he).1, (hformed e' he').1] at hkey
    rw [h.versions e e' he he' hkey]
  · exact (cartLoop_gate h.ids).converges h.versions hrun
  · exact (cartQuoteLoop_gate h.ids).converges h.versions hrun

/-! ## Two replicas -/

namespace Sample

/-- A version of the cart of a user. -/
def cartView (version : ℕ) (eventId : String) : CartView where
  sourceEventId := eventId
  cart := { userId := "user-1", items := [], cartVersion := version }
  updatedAt := 0

/-- Two replicas, each with a cache. -/
def replicas : Net ℕ ℕ where
  replica := id
  cached := true

/-- Both replicas find no cart; the older version is created first, so the other write conflicts. -/
def createConflict : List (CasLoop.Action ℕ ℕ CartView) :=
  [.start 0 (cartView 2 "event-2"), .start 1 (cartView 1 "event-1"),
    .lookup 0, .fetch 0, .lookup 1, .fetch 1, .write 1, .store 1,
    .write 0, .invalidate 0, .lookup 0, .fetch 0, .keep 0, .write 0, .store 0]

end Sample

/-- After a conflict of two creations the newer cart is stored. -/
theorem newer_cart_kept : ∃ s : State ℕ ℕ CartView CartView Unit,
    StepSystem.run (CasLoop.step cartLoop Sample.replicas) {} Sample.createConflict = some s ∧
    Converges id (fun view : CartView => view.cart.cartVersion) Sample.createConflict s ∧
    (s.log.map Write.value) = [Sample.cartView 1 "event-1", Sample.cartView 2 "event-2"] := by
  have hrun : ((StepSystem.run (CasLoop.step cartLoop Sample.replicas) {} Sample.createConflict).map
      fun s => s.log.map Write.value) =
      some [Sample.cartView 1 "event-1", Sample.cartView 2 "event-2"] := by
    decide +kernel
  obtain ⟨s, hs, hlog⟩ := Option.map_eq_some_iff.mp hrun
  have hdelivered : ∀ e, Delivered Sample.createConflict e →
      e = Sample.cartView 2 "event-2" ∨ e = Sample.cartView 1 "event-1" := by
    rintro e ⟨c, hc⟩
    simp only [Sample.createConflict, List.mem_cons, Action.start.injEq, reduceCtorEq,
      List.not_mem_nil, or_false] at hc
    rcases hc with ⟨-, rfl⟩ | ⟨-, rfl⟩
    · exact .inl rfl
    · exact .inr rfl
  refine ⟨s, hs, (versioned_projections_converge Sample.replicas).2.1 _ s ⟨?_, ?_⟩ hs, hlog⟩
  · intro e e' he he' hid
    rcases hdelivered e he with rfl | rfl <;> rcases hdelivered e' he' with rfl | rfl
    · rfl
    · exact absurd hid (by decide)
    · exact absurd hid (by decide)
    · rfl
  · intro e e' he he' hversion
    rcases hdelivered e he with rfl | rfl <;> rcases hdelivered e' he' with rfl | rfl
    · rfl
    · exact absurd hversion (by decide)
    · exact absurd hversion (by decide)
    · rfl

end Boutique.Storefront
