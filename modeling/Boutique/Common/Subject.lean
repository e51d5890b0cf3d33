import Mathlib.Tactic.Common

/-!
# Subjects of the published facts

The event subjects on which the projections of the services switch.
-/

namespace Boutique

/-- The subjects of catalog, currency, cart, quote, storefront, order and notification
facts.  `other` stands for every subject that the modelled projections do not name. -/
inductive EventSubject where
  | catalogProductUpserted | catalogProductRemoved | catalogSnapshotCompleted
  | currencyRatesUpdated
  | cartItemAdded | cartCleared | cartCommandRejected
  | cartQuoteUpdated | cartQuoteFailed
  | operationAccepted
  | orderSubmitted | orderProcessingStageChanged | orderRejected | orderCompleted
  | orderCancelled | orderManualReviewRequired | orderStepTimedOut
  | orderConfirmationSent | orderConfirmationFailed
  | other (text : String)
  deriving DecidableEq, Repr

/-- The NATS subject. -/
def EventSubject.text : EventSubject → String
  | .catalogProductUpserted => "boutique.evt.catalog.product-upserted.v1"
  | .catalogProductRemoved => "boutique.evt.catalog.product-removed.v1"
  | .catalogSnapshotCompleted => "boutique.evt.catalog.snapshot-completed.v1"
  | .currencyRatesUpdated => "boutique.evt.currency.rates-updated.v1"
  | .cartItemAdded => "boutique.evt.cart.item-added.v1"
  | .cartCleared => "boutique.evt.cart.cleared.v1"
  | .cartCommandRejected => "boutique.evt.cart.command-rejected.v1"
  | .cartQuoteUpdated => "boutique.evt.shipping.cart-quote-updated.v1"
  | .cartQuoteFailed => "boutique.evt.shipping.cart-quote-failed.v1"
  | .operationAccepted => "boutique.evt.storefront.operation-accepted.v1"
  | .orderSubmitted => "boutique.evt.order.submitted.v1"
  | .orderProcessingStageChanged => "boutique.evt.order.processing-stage-changed.v1"
  | .orderRejected => "boutique.evt.order.rejected.v1"
  | .orderCompleted => "boutique.evt.order.completed.v1"
  | .orderCancelled => "boutique.evt.order.cancelled.v1"
  | .orderManualReviewRequired => "boutique.evt.order.manual-review-required.v1"
  | .orderStepTimedOut => "boutique.evt.order.step-timed-out.v1"
  | .orderConfirmationSent => "boutique.evt.notification.order-confirmation-sent.v1"
  | .orderConfirmationFailed => "boutique.evt.notification.order-confirmation-failed.v1"
  | .other text => text

end Boutique
