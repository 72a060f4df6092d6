import ExchangeMetrics.Config.Reader
import ExchangeMetrics.Exchange.Interceptor
import ExchangeMetrics.Script.Probe
import ExchangeMetrics.Script.Run
import ExchangeMetrics.Proofs.Life
import ExchangeMetrics.Proofs.Pool
import ExchangeMetrics.Proofs.Program
import ExchangeMetrics.Proofs.Ledger
import ExchangeMetrics.Proofs.Custody
import ExchangeMetrics.Proofs.Recording
import ExchangeMetrics.Proofs.Inheritance
import ExchangeMetrics.Proofs.Nesting
import ExchangeMetrics.Proofs.Scopes
import ExchangeMetrics.Proofs.Propagation
import ExchangeMetrics.Proofs.Transparency
import ExchangeMetrics.Proofs.Tokens
import ExchangeMetrics.Proofs.Handing
import ExchangeMetrics.Proofs.Serving
import ExchangeMetrics.Proofs.Newest
import ExchangeMetrics.Proofs.Labelling
import ExchangeMetrics.Proofs.Agreement
import ExchangeMetrics.Proofs.Summaries
import ExchangeMetrics.Proofs.Following
import ExchangeMetrics.Proofs.Errands
import ExchangeMetrics.Proofs.Reckoning
import ExchangeMetrics.Proofs.Delivery
import ExchangeMetrics.Proofs.Audit
import ExchangeMetrics.Proofs.Apart
import ExchangeMetrics.Proofs.Canonical
import ExchangeMetrics.Proofs.History
import ExchangeMetrics.Proofs.Preference
import ExchangeMetrics.Proofs.Stacked
import ExchangeMetrics.Proofs.Orphans
import ExchangeMetrics.Proofs.Export
import ExchangeMetrics.Proofs.Beginning
import ExchangeMetrics.Proofs.Chronicle
import ExchangeMetrics.Proofs.Truthful
import ExchangeMetrics.Proofs.Abandonment
import ExchangeMetrics.Proofs.Instants
import ExchangeMetrics.Proofs.Timing
import ExchangeMetrics.Proofs.Claiming
import ExchangeMetrics.Proofs.Issued
import ExchangeMetrics.Proofs.Reshaping
import ExchangeMetrics.Proofs.Identity
import ExchangeMetrics.Proofs.Skeleton
import ExchangeMetrics.Proofs.Filling
import ExchangeMetrics.Proofs.Escaping
import ExchangeMetrics.Proofs.Shape
import ExchangeMetrics.Proofs.Naming
import ExchangeMetrics.Proofs.Reading
import ExchangeMetrics.Proofs.Patterns
import ExchangeMetrics.Proofs.Origins
import ExchangeMetrics.Proofs.Separation
import ExchangeMetrics.Proofs.Spellings
import ExchangeMetrics.Proofs.ReadBack
import ExchangeMetrics.Proofs.Entering
import ExchangeMetrics.Proofs.Kinds
import ExchangeMetrics.Proofs.Unrendered
import ExchangeMetrics.Proofs.Literals
import ExchangeMetrics.Proofs.ObjectText
import ExchangeMetrics.Proofs.Configured
