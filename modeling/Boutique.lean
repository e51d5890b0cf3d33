import Boutique.Lib.Run
import Boutique.Lib.Publish
import Boutique.Lib.Gather
import Boutique.Lib.JoinedNames
import Boutique.Lib.CasCache
import Boutique.Lib.CasLinear
import Boutique.Lib.CasGate
import Boutique.Lib.OptimisticRegister
import Boutique.Stateless.LeaseFencing
import Boutique.Stateless.LeaseRefinement
import Boutique.Stateless.ResultIds
import Boutique.Checkout.Effects
import Boutique.Checkout.Compensation
import Boutique.Checkout.Replay
import Boutique.Checkout.Projection
import Boutique.Storefront.Converge
import Boutique.Storefront.Transparency
import Boutique.Storefront.ReadCacheFresh
import Boutique.Catalog.CartRevision
import Boutique.Catalog.Bootstrap
import Boutique.Catalog.VersionGuards
import Boutique.Checkout.LostUpdate
import Boutique.Checkout.DeadlineIndex
import Boutique.Checkout.DeadlineResults
import Boutique.Checkout.ContractRuns
import Boutique.Operations.ReplayOutcome
import Boutique.Cart.Aggregate
import Boutique.Cart.Worker
import Boutique.Cart.Readiness
import Boutique.Payment.Authorizations
import Boutique.Benchmark.Lifecycle
import Boutique.Recommendation.IndexAgreement
import Boutique.Frontend.CartPath
import Boutique.Frontend.LiveOrders
import Boutique.Frontend.Money
import Boutique.Storefront.OrderConvergence
import Boutique.Storefront.OrderStory
import Boutique.Checkout.SubmitDecision
import Boutique.Checkout.OrderTotal
import Boutique.Checkout.PricedRevision
import Boutique.Checkout.NeverPoisoned
import Boutique.Email.Confirmations
import Boutique.Ads.PageViews
import Boutique.Checkout.StreamProcessor
import Boutique.Cart.JournalFormat
import Boutique.Recommendation.BatchFilter
import Boutique.Storefront.CacheAccounting
import Boutique.Storefront.CatalogMemoFresh
import Boutique.Benchmark.MergeLogs
import Boutique.Benchmark.OrderStream
import Boutique.Benchmark.WorkerConfig
import Boutique.Benchmark.CoordinatedRun
import Boutique.Benchmark.Saturation
