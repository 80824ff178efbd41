import KMeansSeeding.Breach
import KMeansSeeding.Binary.Precision
import KMeansSeeding.Kernel
import KMeansSeeding.Sketch
import KMeansSeeding.Shortlist
import KMeansSeeding.Projection
import KMeansSeeding.Search
import KMeansSeeding.Decimal.Text
import KMeansSeeding.Json.Shape
import KMeansSeeding.Configuration
import KMeansSeeding.Weights
import KMeansSeeding.Index.Query
import KMeansSeeding.Index.Weighted
import KMeansSeeding.Document
import KMeansSeeding.Main
import KMeansSeeding.Proofs.CommandLine.Counting
import KMeansSeeding.Proofs.Comparison
import KMeansSeeding.Proofs.Index.Refusals
import KMeansSeeding.Proofs.Index.Rebuilds
import KMeansSeeding.Proofs.Binary.Grids
import KMeansSeeding.Proofs.Binary.Readings
import KMeansSeeding.Proofs.Binary.Rounding
import KMeansSeeding.Proofs.Binary.Arithmetic
import KMeansSeeding.Proofs.Binary.Widening
import KMeansSeeding.Proofs.Sums
import KMeansSeeding.Proofs.Lanes
import KMeansSeeding.Proofs.Distances
import KMeansSeeding.Proofs.Index.Accuracy
import KMeansSeeding.Proofs.CommandLine.Conservation
import KMeansSeeding.Proofs.Index.Safety
import KMeansSeeding.Proofs.Index.Snapshot
import KMeansSeeding.Proofs.Optimality
import KMeansSeeding.Proofs.Reordering
import KMeansSeeding.Proofs.Selection
import KMeansSeeding.Proofs.Binary.Laws
import KMeansSeeding.Proofs.Norms
import KMeansSeeding.Proofs.Binary.Exact
import KMeansSeeding.Proofs.Exactness
import KMeansSeeding.Proofs.Unrounded
import KMeansSeeding.Proofs.Packing
import KMeansSeeding.Proofs.Index.Batches
import KMeansSeeding.Proofs.Index.Retrieval
import KMeansSeeding.Proofs.Index.Evolution
import KMeansSeeding.Proofs.Index.Exports
import KMeansSeeding.Proofs.CommandLine.Building
import KMeansSeeding.Proofs.CommandLine.Pointwise
import KMeansSeeding.Proofs.Recordings
import KMeansSeeding.Proofs.InPlace
import KMeansSeeding.Proofs.Documents.Configurations
import KMeansSeeding.Proofs.Documents.Queries
import KMeansSeeding.Proofs.Documents.Weights
import KMeansSeeding.Proofs.Bits
import KMeansSeeding.Proofs.Binary.Negation
import KMeansSeeding.Proofs.Opposites
import KMeansSeeding.Proofs.Index.Starting
