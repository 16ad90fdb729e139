import AdaptiveRules.Catalog
import AdaptiveRules.CommandLine
import AdaptiveRules.ConfigurationSession
import AdaptiveRules.ConfigurationSummary
import AdaptiveRules.FileLanguage
import AdaptiveRules.Generalization
import AdaptiveRules.InsightsExchange
import AdaptiveRules.InsightsReport
import AdaptiveRules.JsonParser
import AdaptiveRules.JsonPrinter
import AdaptiveRules.LearningScheduler
import AdaptiveRules.LiteralSearch
import AdaptiveRules.Main
import AdaptiveRules.MatchCache
import AdaptiveRules.MatchContext
import AdaptiveRules.NumberText
import AdaptiveRules.Observers
import AdaptiveRules.Paragraphs
import AdaptiveRules.Pattern
import AdaptiveRules.Prompt
import AdaptiveRules.Proofs.AdaptationChains
import AdaptiveRules.Proofs.AdaptationTrigger
import AdaptiveRules.Proofs.AgreeingInsights
import AdaptiveRules.Proofs.AimedWindows
import AdaptiveRules.Proofs.BackgroundLearning
import AdaptiveRules.Proofs.BestVariations
import AdaptiveRules.Proofs.CacheFreshness
import AdaptiveRules.Proofs.CacheTransparency
import AdaptiveRules.Proofs.CatalogAcceptance
import AdaptiveRules.Proofs.CatalogPatterns
import AdaptiveRules.Proofs.CommandRuns
import AdaptiveRules.Proofs.ConservativeModes
import AdaptiveRules.Proofs.ContextKeys
import AdaptiveRules.Proofs.CounterAgreement
import AdaptiveRules.Proofs.Dictionaries
import AdaptiveRules.Proofs.EventCounters
import AdaptiveRules.Proofs.ExpressibleExamples
import AdaptiveRules.Proofs.FailedResets
import AdaptiveRules.Proofs.FileReports
import AdaptiveRules.Proofs.FilesApart
import AdaptiveRules.Proofs.FittingClasses
import AdaptiveRules.Proofs.ForgottenVariations
import AdaptiveRules.Proofs.InformedPatterns
import AdaptiveRules.Proofs.InsightsConsistency
import AdaptiveRules.Proofs.InsightsReading
import AdaptiveRules.Proofs.LearnedVariations
import AdaptiveRules.Proofs.LearningOrder
import AdaptiveRules.Proofs.LiteralRecovery
import AdaptiveRules.Proofs.MatchReading
import AdaptiveRules.Proofs.MaximalSpans
import AdaptiveRules.Proofs.MergedRules
import AdaptiveRules.Proofs.ParagraphRuns
import AdaptiveRules.Proofs.ParallelLearners
import AdaptiveRules.Proofs.RecentEntries
import AdaptiveRules.Proofs.RecognizedAlternatives
import AdaptiveRules.Proofs.RecoveredSpans
import AdaptiveRules.Proofs.RelaxedRules
import AdaptiveRules.Proofs.RepeatedLearning
import AdaptiveRules.Proofs.RepeatedSaves
import AdaptiveRules.Proofs.RewrittenEntries
import AdaptiveRules.Proofs.RunsInOverlaps
import AdaptiveRules.Proofs.SavedSessions
import AdaptiveRules.Proofs.SearchesBeside
import AdaptiveRules.Proofs.SectionVisits
import AdaptiveRules.Proofs.SeedGroups
import AdaptiveRules.Proofs.SessionTurns
import AdaptiveRules.Proofs.SharedNames
import AdaptiveRules.Proofs.SpecificRules
import AdaptiveRules.Proofs.StoreRegisters
import AdaptiveRules.Proofs.UndisturbedPatterns
import AdaptiveRules.Proofs.VariationJoin
import AdaptiveRules.Proofs.WordOffsets
import AdaptiveRules.Proofs.WrittenRules
import AdaptiveRules.QueryEngine
import AdaptiveRules.RuleMerging
import AdaptiveRules.Similarity
import AdaptiveRules.TextRule
import AdaptiveRules.TextWindows
import AdaptiveRules.TomlParser
import AdaptiveRules.UsageMetrics
