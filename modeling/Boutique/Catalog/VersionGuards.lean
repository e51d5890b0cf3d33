import Boutique.Checkout.Projection
import Boutique.Cart.CatalogProjection

/-!
# Version guards of the Redis scripts

The scripts that keep catalog facts at checkout and at the cart service compare versions as Lua
numbers.  A stored version is replaced by a larger one exactly as long as the two do not round to one
double; the publisher emits versions of 63 bits, of which a double keeps 53.
-/

namespace Boutique.Catalog

open VersionGate (holder level_of_holder)

/-! ## What the keys hold -/

/-- What `applyProjectionScript` returns. -/
def applyProjectionReply {α : Type} (cell : ProjectionCell α) (offer : ℕ × α) : Bool :=
  !(luaNumber offer.1 ≤ cell.version)

/-- `applyProjectionScript` as a step that takes an offer. -/
def applyOffer {α : Type} (cell : ProjectionCell α) (offer : ℕ × α) : ProjectionCell α :=
  applyProjectionScript cell offer.1 offer.2

/-- The offer is stored if the script returns 1, and nothing changes otherwise. -/
lemma applyOffer_eq {α : Type} (cell : ProjectionCell α) (offer : ℕ × α) :
    applyOffer cell offer =
      if applyProjectionReply cell offer then
        { version := luaNumber offer.1, value := some offer.2 }
      else cell := by
  unfold applyOffer applyProjectionScript applyProjectionReply
  by_cases hle : luaNumber offer.1 ≤ cell.version
  · simp [hle]
  · simp [hle]

/-- A key of checkout holds the value of the last offer that was stored, and the Lua number of its
version. -/
lemma foldl_applyOffer {α : Type} {offers : List (ℕ × α)} {offer : ℕ × α}
    (h : holder applyOffer applyProjectionReply ({} : ProjectionCell α) offers = some offer) :
    offers.foldl applyOffer {} = { version := luaNumber offer.1, value := some offer.2 } := by
  let stored : ℕ × α → ProjectionCell α := fun offer =>
    { version := luaNumber offer.1, value := some offer.2 }
  have hstep : ∀ (cell : ProjectionCell α) (offer : ℕ × α), id (applyOffer cell offer) =
      if applyProjectionReply cell offer then stored offer else id cell := applyOffer_eq
  exact level_of_holder hstep h

/-! ## The scripts on a stored version -/

section Stored

variable {v w : ℕ}

/-- `applyProjectionScript` on a value that is stored with version `v`. -/
lemma applyProjectionScript_stored {α : Type} (held incoming : α) :
    (applyProjectionScript { version := luaNumber v, value := some held } w incoming).value =
      some (if luaNumber v < luaNumber w then incoming else held) := by
  unfold applyProjectionScript
  by_cases hlt : luaNumber v < luaNumber w
  · simp [hlt, hlt.not_ge]
  · simp [hlt, not_lt.mp hlt]

/-- `ApplyProductScript` on the fields of a product. -/
lemma applyProductScript_stored (held incoming : CartCatalog.ProductFields) :
    CartCatalog.applyProductScript (some held) incoming =
      some (if luaNumber held.version < luaNumber incoming.version then incoming else held) := by
  unfold CartCatalog.applyProductScript CartCatalog.applyProductReply CartCatalog.luaStored
  by_cases hlt : luaNumber held.version < luaNumber incoming.version
  · simp [hlt, hlt.not_ge]
  · simp [hlt, not_lt.mp hlt]

/-- `ApplySnapshotScript` on a revision. -/
lemma applySnapshotScript_stored :
    CartCatalog.applySnapshotScript (some v) w =
      some (if luaNumber v < luaNumber w then w else v) := by
  unfold CartCatalog.applySnapshotScript CartCatalog.applySnapshotReply CartCatalog.luaStored
  by_cases hlt : luaNumber v < luaNumber w
  · simp [hlt, hlt.not_ge]
  · simp [hlt, not_lt.mp hlt]

end Stored

/-! ## Exact guards -/

/-- Whatever was written before, a key that holds a value with version `v` holds the incoming value
after it arrives with version `w` if `w` is larger, and holds what it held if it is not. -/
structure ExactGuards (v w : ℕ) : Prop where
  projection : ∀ (α : Type) (offers : List (ℕ × α)) (held incoming : α),
    holder applyOffer applyProjectionReply ({} : ProjectionCell α) offers = some (v, held) →
    (offers.foldl applyOffer {}).value = some held ∧
      (applyProjectionScript (offers.foldl applyOffer {}) w incoming).value =
        some (if v < w then incoming else held)
  product : ∀ (writes : List CartCatalog.ProductFields) (held incoming : CartCatalog.ProductFields),
    writes.foldl CartCatalog.applyProductScript none = some held →
    held.version = v → incoming.version = w →
    CartCatalog.applyProductScript (writes.foldl CartCatalog.applyProductScript none) incoming =
      some (if v < w then incoming else held)
  snapshot : ∀ writes : List ℕ,
    writes.foldl CartCatalog.applySnapshotScript none = some v →
    CartCatalog.applySnapshotScript (writes.foldl CartCatalog.applySnapshotScript none) w =
      some (if v < w then w else v)

/-- Two versions are compared as their doubles are. -/
lemma luaNumber_lt_iff {v w : ℕ} (h : w ≤ v ∨ luaNumber v ≠ luaNumber w) :
    luaNumber v < luaNumber w ↔ v < w := by
  constructor
  · intro hlt
    by_contra hle
    exact absurd (luaNumber_mono (not_lt.mp hle)) (not_le_of_gt hlt)
  · intro hlt
    have hne : luaNumber v ≠ luaNumber w := h.resolve_left (not_le_of_gt hlt)
    exact lt_of_le_of_ne (luaNumber_mono hlt.le) hne

/-- A first write with a positive revision is stored. -/
lemma applySnapshotScript_first {v : ℕ} (h : 0 < v) :
    [v].foldl CartCatalog.applySnapshotScript none = some v := by
  have hzero : luaNumber 0 = 0 := luaNumber_of_lt (by decide)
  have hpos := luaNumber_pos h
  simp [CartCatalog.applySnapshotScript, CartCatalog.applySnapshotReply, CartCatalog.luaStored, hzero,
    hpos.ne']

/-- A snapshot key that holds a revision keeps a larger one out that has the same double. -/
lemma not_exactGuards {v w : ℕ} (hpos : 0 < v) (hlt : v < w) (hdouble : luaNumber v = luaNumber w) :
    ¬ExactGuards v w := by
  intro hexact
  have hfirst := applySnapshotScript_first hpos
  have hreplaced := hexact.snapshot [v] hfirst
  rw [hfirst, applySnapshotScript_stored, hdouble, if_neg (lt_irrefl _), if_pos hlt] at hreplaced
  exact hlt.ne (Option.some.inj hreplaced)

/-- The guards are exact for a stored version and an incoming one exactly if the incoming one is not
larger or the two have different doubles. -/
theorem version_guards_exact_iff (v w : ℕ) :
    ExactGuards v w ↔ w ≤ v ∨ luaNumber v ≠ luaNumber w := by
  constructor
  · intro hexact
    by_contra hnot
    simp only [not_or, not_le, ne_eq, not_not] at hnot
    obtain ⟨hlt, hdouble⟩ := hnot
    rcases Nat.eq_zero_or_pos v with rfl | hpos
    · have hzero : luaNumber 0 = 0 := luaNumber_of_lt (by decide)
      have := luaNumber_pos hlt
      omega
    · exact not_exactGuards hpos hlt hdouble hexact
  · intro h
    have hlt := luaNumber_lt_iff h
    refine ⟨fun α offers held incoming hheld => ?_, fun writes held incoming hheld hv hw => ?_,
      fun writes hheld => ?_⟩
    · rw [foldl_applyOffer hheld]
      refine ⟨rfl, ?_⟩
      rw [applyProjectionScript_stored]
      simp only [hlt]
    · rw [hheld, applyProductScript_stored, hv, hw]
      simp only [hlt]
    · rw [hheld, applySnapshotScript_stored]
      simp only [hlt]

/-- Two versions in the range of `stableVersion`, of which the larger one is dropped by the script of
checkout and by the scripts of the cart service. -/
theorem next_version_dropped :
    1 ≤ 2 ^ 53 ∧ 2 ^ 53 + 1 < 2 ^ 63 ∧ ¬ExactGuards (2 ^ 53) (2 ^ 53 + 1) ∧
      ([(2 ^ 53, "old"), (2 ^ 53 + 1, "new")].foldl applyOffer {}).value = some "old" ∧
      [2 ^ 53, 2 ^ 53 + 1].foldl CartCatalog.applySnapshotScript none = some (2 ^ 53) :=
  ⟨by decide, by decide, not_exactGuards (by decide) (by decide) (by decide), by decide, by decide⟩

end Boutique.Catalog
