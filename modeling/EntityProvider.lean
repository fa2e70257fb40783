import EntityProvider.Annotations
import EntityProvider.AxKube.Apigroup
import EntityProvider.AxKube.Client
import EntityProvider.AxKube.Discovery
import EntityProvider.AxKube.Watch
import EntityProvider.Backoff
import EntityProvider.Backstage.Entities
import EntityProvider.Backstage.Ingest
import EntityProvider.Backstage.Json
import EntityProvider.CacheInvariant
import EntityProvider.CacheRefinement
import EntityProvider.ClientPool
import EntityProvider.ClusterAggregation
import EntityProvider.ClusterSystems
import EntityProvider.Configuration
import EntityProvider.Confinement
import EntityProvider.Convergence
import EntityProvider.DiscoveryRun
import EntityProvider.EntityAssembly
import EntityProvider.EventPipeline
import EntityProvider.GroupPreference
import EntityProvider.Interference
import EntityProvider.JsonRoundTrip
import EntityProvider.Kube.Api
import EntityProvider.Kube.Object
import EntityProvider.Library.Attempts
import EntityProvider.Library.Captures
import EntityProvider.Library.Checks
import EntityProvider.Library.Grouping
import EntityProvider.Library.Ledger
import EntityProvider.Library.Maps
import EntityProvider.Library.Paths
import EntityProvider.Library.Pipeline
import EntityProvider.Library.Records
import EntityProvider.Library.RequestReply
import EntityProvider.Library.Saturating
import EntityProvider.Library.Sorting
import EntityProvider.Library.Streams
import EntityProvider.Library.Sweeps
import EntityProvider.Library.Text
import EntityProvider.Locality
import EntityProvider.Mirror
import EntityProvider.Outline
import EntityProvider.PipelineProgress
import EntityProvider.Program
import EntityProvider.Provenance
import EntityProvider.PurgeGhosts
import EntityProvider.PurgeOutcome
import EntityProvider.Recommended
import EntityProvider.RedisStatus
import EntityProvider.References
import EntityProvider.Relations
import EntityProvider.ResourceUrls
import EntityProvider.RetrievalPath
import EntityProvider.RetryDelays
import EntityProvider.RetryLoop
import EntityProvider.Routes.Entities
import EntityProvider.SharedCache
import EntityProvider.SinglingOut
import EntityProvider.Startup
import EntityProvider.StaticEntities
import EntityProvider.Subresources
import EntityProvider.TypeProtocol
import EntityProvider.TypeRoundTrip
import EntityProvider.Validation
import EntityProvider.WatchOutcome
import EntityProvider.WatchPlan
import EntityProvider.WatchStreams
