import BuildLog.Main
import BuildLog.Service.Basic
import BuildLog.Proofs.Registry.History
import BuildLog.Proofs.Resolution
import BuildLog.Proofs.Run
import BuildLog.Proofs.Service.Isolation
import BuildLog.Proofs.Registry.Calls
import BuildLog.Proofs.Registry.Protection
import BuildLog.Proofs.Line.Ending
import BuildLog.Proofs.Pattern.Spelling
import BuildLog.Proofs.Format.Ending
import BuildLog.Proofs.Reading.Ending
import BuildLog.Proofs.Registry.Unloading
import BuildLog.Proofs.Registry.Naming
import BuildLog.Proofs.Reading.Loaded
import BuildLog.Proofs.Line.Stream
import BuildLog.Proofs.Reading.File
import BuildLog.Proofs.CiJob.Conservation
import BuildLog.Proofs.Format.Quoting
import BuildLog.Proofs.Line.Joining
import BuildLog.Proofs.Registry.Commands
import BuildLog.Proofs.CiJob.Provenance
import BuildLog.Proofs.Decimal.Limit
import BuildLog.Proofs.Format.Answering
import BuildLog.Proofs.Format.Faults
import BuildLog.Proofs.Registry.Detection
import BuildLog.Proofs.Format.Numbering
import BuildLog.Proofs.Reading.Numbering
import BuildLog.Proofs.Format.Documents
import BuildLog.Proofs.Reading.Documents
import BuildLog.Proofs.Line.Delivery
import BuildLog.Proofs.Format.Limits
import BuildLog.Proofs.Format.Overlong
import BuildLog.Proofs.Reading.Limits
import BuildLog.Proofs.Registry.Editing
import BuildLog.Proofs.Registry.Restoring
import BuildLog.Proofs.Registry.Survey
import BuildLog.Proofs.Reading.Validity
import BuildLog.Proofs.Format.Findings
import BuildLog.Proofs.Reading.Findings
import BuildLog.Proofs.Reading.Group
import BuildLog.Proofs.Scan
import BuildLog.Proofs.Pattern.Like
import BuildLog.Proofs.Command.Cache
import BuildLog.Proofs.Command.History
import BuildLog.Proofs.Registry.Lookup
import BuildLog.Proofs.Line.Reading
import BuildLog.Proofs.CiJob.Splitting
import BuildLog.Proofs.Format.Placement
import BuildLog.Proofs.Format.Recognition
import BuildLog.Proofs.Diagnostic.Accepting
import BuildLog.Proofs.Diagnostic.Printing
import BuildLog.Proofs.Format.Reporting
import BuildLog.Proofs.Format.Clean
import BuildLog.Proofs.Payload.Section
import BuildLog.Proofs.Payload.Banner
import BuildLog.Proofs.Decimal.Overflow
import BuildLog.Proofs.Decimal.Front
import BuildLog.Proofs.Diagnostic.Failing
import BuildLog.Proofs.Pattern.Standing
import BuildLog.Proofs.Format.RoundTrip
import BuildLog.Proofs.Format.Matching
import BuildLog.Proofs.Format.Precedence
import BuildLog.Proofs.Format.Members
import BuildLog.Proofs.Format.Growing
