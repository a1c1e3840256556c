import DataAccess.Proofs.Compile.Dispatch
import DataAccess.Proofs.Compile.Isolation
import DataAccess.Proofs.Row.OffsetRoundTrip
import DataAccess.Sample.Session
import DataAccess.Compile.WellFormed
import DataAccess.Proofs.Compile.WellFormed
import DataAccess.Compile.Places
import DataAccess.Compile.UnsupportedTypes
import DataAccess.Declaration.Places
import DataAccess.Parse.Layout
import DataAccess.Proofs.Compile.Places
import DataAccess.Compile.Fragment
import DataAccess.Proofs.Compile.AcceptedItem
import DataAccess.Compile.Markers
import DataAccess.Proofs.Compile.Markers
import DataAccess.Proofs.Resolution.Resolver
import DataAccess.Proofs.Row.ForwardReading
import DataAccess.Proofs.Row.LiveReading
import DataAccess.Proofs.Compile.AcceptedFragments
import DataAccess.Proofs.Compile.GeneratedModule
import DataAccess.Row.Listing
import DataAccess.Proofs.Row.Listing
import DataAccess.Row.Distinct
import DataAccess.Proofs.Row.Distinct
import DataAccess.Execution.Placeholders
import DataAccess.Proofs.Execution.Placeholders
import DataAccess.Compile.Faults
import DataAccess.Proofs.Compile.Faults
import DataAccess.Mapping.Spelling
import DataAccess.Proofs.Mapping.Spelling
import DataAccess.Compile.Extraction
import DataAccess.Proofs.Compile.Extraction
import DataAccess.Proofs.Execution.Rendering
import DataAccess.Parse.Header
import DataAccess.Proofs.Parse.Header
import DataAccess.Compile.RegistryName
import DataAccess.Proofs.Compile.RegistryName
import DataAccess.Proofs.Compile.Collecting
import DataAccess.Row.CurrentRow
import DataAccess.Proofs.Row.CurrentRow
import DataAccess.Compile.GeneratedName
import DataAccess.Proofs.Compile.GeneratedName
import DataAccess.Proofs.Sample.Database
