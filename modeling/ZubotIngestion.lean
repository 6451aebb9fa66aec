import ZubotIngestion.Domain.Pipeline.JsonParser
import ZubotIngestion.Services.PipelineRun
import ZubotIngestion.Services.Degradation
import ZubotIngestion.Api.Review
import ZubotIngestion.Services.CeleryApp
import ZubotIngestion.Services.JobService
import ZubotIngestion.Services.Journaling
import ZubotIngestion.Services.TaskRun
import ZubotIngestion.Services.SoloRun
import ZubotIngestion.Api.ReviewRun
import ZubotIngestion.Services.SubmissionRun
import ZubotIngestion.Services.Histories
import ZubotIngestion.System.Requests
import ZubotIngestion.System.Publication
import ZubotIngestion.System.ReviewQueue
import ZubotIngestion.System.Records
import ZubotIngestion.System.Decisions
import ZubotIngestion.System.Redelivery
import ZubotIngestion.System.TornUpdates
import ZubotIngestion.System.Webhook
import ZubotIngestion.Services.Retries
import ZubotIngestion.Services.TookEffect
import ZubotIngestion.Services.Reporting
import ZubotIngestion.Domain.Pipeline.Confidence
import ZubotIngestion.Domain.Pipeline.Sources
import ZubotIngestion.Domain.Pipeline.DrawingNumber
import ZubotIngestion.Domain.Pipeline.DocumentTypeExtractor
import ZubotIngestion.Services.Completeness
import ZubotIngestion.Effects.Trace
import ZubotIngestion.Store.Addressed
import ZubotIngestion.Store.Insert
import ZubotIngestion.Infrastructure.Elasticsearch
import ZubotIngestion.Infrastructure.ChromaDB
import ZubotIngestion.Infrastructure.Migration
import ZubotIngestion.Services.SubmissionScript
import ZubotIngestion.Services.Conservation
import ZubotIngestion.Services.Leftovers
import ZubotIngestion.Services.Polling
import ZubotIngestion.System.Submissions
import ZubotIngestion.System.Polling
import ZubotIngestion.Effects.Determined
import ZubotIngestion.Services.Stage1
import ZubotIngestion.Effects.ResourcePool
import ZubotIngestion.Infrastructure.Session
import ZubotIngestion.System.WorkerProcess
import ZubotIngestion.Services.Delivery
import ZubotIngestion.System.Stores
import ZubotIngestion.System.StoreGate
import ZubotIngestion.System.Deduplication
import ZubotIngestion.Store.Windows
import ZubotIngestion.Api.PendingReviews
import ZubotIngestion.System.ErrorMessages
import ZubotIngestion.Text.Replace
import ZubotIngestion.Python.CodePoints
import ZubotIngestion.Infrastructure.OllamaClient
import ZubotIngestion.Api.Http
import ZubotIngestion.Api.Auth
import ZubotIngestion.Api.App
import ZubotIngestion.Text.Context
import ZubotIngestion.Python.Lower
import ZubotIngestion.Domain.Pipeline.Companion
import ZubotIngestion.Domain.Pipeline.Validation
import ZubotIngestion.Domain.Pipeline.Sidecar
import ZubotIngestion.Services.SidecarAgreement
import ZubotIngestion.Domain.Pipeline.Reported
import ZubotIngestion.Services.UnitConfidences
import ZubotIngestion.Effects.Attempts
import ZubotIngestion.Text.Scan
import ZubotIngestion.Domain.Pipeline.JsonText
import ZubotIngestion.Services.BatchStatus
import ZubotIngestion.System.Progress
import ZubotIngestion.Text.Edges
import ZubotIngestion.Domain.Pipeline.JsonRecovery
import ZubotIngestion.Text.Transduce
import ZubotIngestion.Python.UnicodeEscape
import ZubotIngestion.Domain.Pipeline.JsonString
import ZubotIngestion.Domain.Pipeline.KeyValueStrings
import ZubotIngestion.Python.Strip
import ZubotIngestion.Domain.Pipeline.Fusion
import ZubotIngestion.Text.Split
import ZubotIngestion.Text.Digits
import ZubotIngestion.Infrastructure.PdfProcessor
import ZubotIngestion.Domain.Pipeline.SentTexts
import ZubotIngestion.Domain.Pipeline.PageTexts
import ZubotIngestion.Services.PageSources
import ZubotIngestion.Services.TitleIsolation
import ZubotIngestion.Domain.Pipeline.TextOnly
import ZubotIngestion.Text.InOrder
import ZubotIngestion.Domain.Pipeline.CompanionLedger
import ZubotIngestion.Services.CompanionCoherence
import ZubotIngestion.Effects.Resolve
import ZubotIngestion.Domain.Pipeline.Prefetch
import ZubotIngestion.Domain.Pipeline.SidecarSchema
import ZubotIngestion.Effects.Retry
import ZubotIngestion.Python.Power
import ZubotIngestion.Infrastructure.CallbackDelivery
import ZubotIngestion.Infrastructure.OllamaRetry
import ZubotIngestion.Infrastructure.OllamaPromises
import ZubotIngestion.Infrastructure.StoredScore
import ZubotIngestion.Python.Integers
import ZubotIngestion.Infrastructure.Mapping
import ZubotIngestion.Infrastructure.RedisUrls
import ZubotIngestion.Infrastructure.Logging
import ZubotIngestion.Infrastructure.SessionFactories
import ZubotIngestion.Services.Provenance
import ZubotIngestion.Text.Matching
import ZubotIngestion.Scripts.RegressionCheck
import ZubotIngestion.Scripts.FailedCandidates
import ZubotIngestion.Services.AttemptCalls
import ZubotIngestion.Services.SubmissionCalls
import ZubotIngestion.System.Calls
import ZubotIngestion.System.Integrity
import ZubotIngestion.System.Attribution
import ZubotIngestion.System.RowShapes
import ZubotIngestion.System.Routing
import ZubotIngestion.System.Inputs
import ZubotIngestion.Text.Pattern
import ZubotIngestion.Python.PurePath
import ZubotIngestion.Services.FilenameParser
import ZubotIngestion.Python.JsonDumps
import ZubotIngestion.Infrastructure.CallbackBody
import ZubotIngestion.Scripts.Reproduction
import ZubotIngestion.Scripts.ModelRuns
import ZubotIngestion.System.Recovery
import ZubotIngestion.Python.Uuid
import ZubotIngestion.Api.Extract
import ZubotIngestion.Api.Lookups
import ZubotIngestion.Infrastructure.UuidColumn
import ZubotIngestion.System.Links
import ZubotIngestion.Domain.Pipeline.Assessment
import ZubotIngestion.Effects.Ensuring
import ZubotIngestion.Effects.Gather
import ZubotIngestion.Api.Health
import ZubotIngestion.Infrastructure.PdfDocuments
