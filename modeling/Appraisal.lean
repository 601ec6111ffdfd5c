import Appraisal.Double
import Appraisal.Text.Blank
import Appraisal.Text.Lowercase
import Appraisal.Calendar.Reader
import Appraisal.Json.Printer
import Appraisal.Json.Reader
import Appraisal.Json.Decode
import Appraisal.Keyed
import Appraisal.Market.Sales
import Appraisal.Market.Discussion
import Appraisal.Catalog.Product
import Appraisal.Catalog.Entry
import Appraisal.Failure
import Appraisal.Dimension
import Appraisal.Scoring.Curve
import Appraisal.Scoring.Scorecard
import Appraisal.Evidence.Basic
import Appraisal.Analysis.Demand
import Appraisal.Analysis.Availability
import Appraisal.Analysis.Quality
import Appraisal.Strategy.Registry
import Appraisal.Valuation.Basic
import Appraisal.Recommendation.Engine
import Appraisal.Document.Evidence
import Appraisal.Document.Recommendation
import Appraisal.Settings
import Appraisal.Gathering.Collection
import Appraisal.Main
import Appraisal.Proofs.BatchAnalysis
import Appraisal.Proofs.BatchRequests
import Appraisal.Proofs.Completeness
import Appraisal.Proofs.LastWrites
import Appraisal.Proofs.Merging
import Appraisal.Proofs.Prices
import Appraisal.Proofs.Recommendations
import Appraisal.Proofs.RefreshRuns
import Appraisal.Proofs.Rejections
import Appraisal.Proofs.RetirementPhase
import Appraisal.Proofs.SettledRetirement
import Appraisal.Proofs.WeightedMeans
import Appraisal.Proofs.BetterScores
import Appraisal.Proofs.CardContents
import Appraisal.Proofs.Abstention
import Appraisal.Proofs.Breakdowns
import Appraisal.Proofs.HandOffs
import Appraisal.Proofs.AnalyzerOrder
import Appraisal.Proofs.EasierSupply
import Appraisal.Proofs.PriceMoves
import Appraisal.Proofs.ReviewCounts
import Appraisal.Proofs.RetirementYears
import Appraisal.Proofs.ScheduledYear
import Appraisal.Proofs.StrongerSignals
import Appraisal.Proofs.MarketAnchors
import Appraisal.Proofs.RegistryRuns
import Appraisal.Proofs.EvidenceSlices
import Appraisal.Proofs.Fetching
import Appraisal.Proofs.CurveValues
import Appraisal.Proofs.Tallies
import Appraisal.Proofs.Sums
import Appraisal.Proofs.RiskKinds
import Appraisal.Proofs.WeighedDimensions
import Appraisal.Proofs.Narratives
