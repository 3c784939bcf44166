import HomeCortex.Library.Table
import HomeCortex.Library.Checked
import HomeCortex.Common.Json
import HomeCortex.Common.Dates
import HomeCortex.Persistence.RecordIds
import HomeCortex.Persistence.EdgeSchema
import HomeCortex.Persistence.Surreal
import HomeCortex.Spatial.Units
import HomeCortex.Spatial.Anchors
import HomeCortex.Spatial.Contracts
import HomeCortex.Spatial.Embodiment
import HomeCortex.Persistence.Ingestion
import HomeCortex.Persistence.Prepared
import HomeCortex.Persistence.Mirror
import HomeCortex.Spatial.Canonical
import HomeCortex.Common.Datetimes
import HomeCortex.Common.Kinds
import HomeCortex.Mutation.Transactions
import HomeCortex.Mutation.Writing
import HomeCortex.Mutation.Effects
import HomeCortex.Mutation.ItemStore
import HomeCortex.Common.Clock
import HomeCortex.Common.Order
import HomeCortex.Facts.Operations
import HomeCortex.Semantic.Ir
import HomeCortex.Mutation.NamedWrites
import HomeCortex.Semantic.Conversation
import HomeCortex.Semantic.Turns
import HomeCortex.Conversation.Store
import HomeCortex.Library.Linearization
import HomeCortex.Conversation.Serializable
import HomeCortex.Semantic.Contracts
import HomeCortex.Semantic.Ontology
import HomeCortex.Semantic.Schema
import HomeCortex.Facts.Resolver
import HomeCortex.Facts.Engine
import HomeCortex.Library.DepthFirst
import HomeCortex.Persistence.ImplicitIds
import HomeCortex.Mutation.LocationIds
import HomeCortex.Library.Raising
import HomeCortex.Spatial.Telemetry
import HomeCortex.Agents.Connections
import HomeCortex.Agents.Session
import HomeCortex.Agents.Fencing
import HomeCortex.Mutation.Bodies
import HomeCortex.Api.Execution
import HomeCortex.Api.Sse
import HomeCortex.Mutation.Assignment
import HomeCortex.Api.Transcript
import HomeCortex.Gui.Stream
import HomeCortex.Gui.Decoding
import HomeCortex.Common.Display
import HomeCortex.Runtime.ModelLoop
import HomeCortex.Runtime.Salutation
import HomeCortex.Common.CanonicalJson
import HomeCortex.Library.Binary64
import HomeCortex.Spatial.RuntimePose
import HomeCortex.Vision.Contracts
import HomeCortex.Vision.Canonical
import HomeCortex.Vision.Ports
import HomeCortex.Vision.Delivery
import HomeCortex.Mutation.Preview
import HomeCortex.Mutation.Reports
import HomeCortex.Persistence.Relationships
import HomeCortex.Persistence.Views
import HomeCortex.Semantic.FactLog
import HomeCortex.Common.Calendar
import HomeCortex.Facts.DateOffsets
import HomeCortex.Semantic.TemporalTexts
import HomeCortex.Facts.Chronology
import HomeCortex.Facts.NamedScope
import HomeCortex.Library.BoundedWalk
import HomeCortex.Facts.Paths
import HomeCortex.Facts.HostedSpaces
import HomeCortex.Facts.Anniversaries
import HomeCortex.Library.Base64
import HomeCortex.Conversation.Session
import HomeCortex.Library.LatestRegister
import HomeCortex.Spatial.Arrivals
import HomeCortex.Persistence.ExportTree
import HomeCortex.Runtime.ToolResults
import HomeCortex.Common.FloatTexts
import HomeCortex.Library.Logged
import HomeCortex.Capabilities.Calculation
import HomeCortex.Capabilities.CalculationBounds
import HomeCortex.Facts.Projection
import HomeCortex.Facts.PastOffsets
import HomeCortex.Vision.Records
import HomeCortex.Vision.EvidenceClips
import HomeCortex.Vision.JsonLines
import HomeCortex.Facts.Disjointness
import HomeCortex.Library.Rounding
import HomeCortex.Common.DatetimeTexts
import HomeCortex.Spatial.Measures
import HomeCortex.Spatial.AnchorMappings
import HomeCortex.Spatial.Mappings
import HomeCortex.Spatial.Reingestion
import HomeCortex.Library.Raises
import HomeCortex.Spatial.Fiducials
import HomeCortex.Spatial.Rejections
import HomeCortex.Spatial.Rejections
import HomeCortex.Spatial.TelemetryRejections
import HomeCortex.Vision.Rejections
import HomeCortex.Api.WireErrors
import HomeCortex.Library.JsonLexing
import HomeCortex.Providers.Completions
import HomeCortex.Providers.Deltas
import HomeCortex.Providers.Frames
import HomeCortex.Providers.StreamAgreement
import HomeCortex.Spatial.ExactTransforms
import HomeCortex.Spatial.ExactOccupancy
import HomeCortex.Library.Extremes
import HomeCortex.Spatial.ExactLocalization
import HomeCortex.Facts.HouseholdMembership
import HomeCortex.Providers.OpenaiMessages
import HomeCortex.Runtime.ToolLoop
import HomeCortex.Runtime.ToolPairing
import HomeCortex.Media.Thumbnails
import HomeCortex.Media.ThumbnailLocks
import HomeCortex.Media.ThumbnailCoherence
import HomeCortex.Library.Paging
import HomeCortex.Media.Metadata
import HomeCortex.Media.Index
import HomeCortex.Media.Scanner
import HomeCortex.Media.Timeline
import HomeCortex.Media.Discovery
import HomeCortex.Media.Mirror
import HomeCortex.Media.Refreshes
import HomeCortex.Facts.StepImages
import HomeCortex.Facts.PathImages
import HomeCortex.Facts.Answers
import HomeCortex.Facts.ContentGroups
import HomeCortex.Facts.Conjunctions
import HomeCortex.Library.ComparisonSort
import HomeCortex.Capabilities.Calendar
import HomeCortex.Capabilities.Availability
import HomeCortex.Gui.Client
import HomeCortex.Gui.Coherence
import HomeCortex.Gui.Posts
import HomeCortex.Facts.DiscourseReads
import HomeCortex.Semantic.Replay
import HomeCortex.Facts.PathTypes
