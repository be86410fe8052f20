import BlockImage.Bitmap
import BlockImage.Bitmap.Scan
import BlockImage.Bytes
import BlockImage.Bytes.LittleEndian
import BlockImage.Checksum
import BlockImage.Checksum.Register
import BlockImage.Command
import BlockImage.Command.Arguments
import BlockImage.Command.Grammar
import BlockImage.Command.Report
import BlockImage.Config
import BlockImage.Decimal
import BlockImage.Device
import BlockImage.Duration
import BlockImage.Ends
import BlockImage.Ends.Discard
import BlockImage.Ends.Pair
import BlockImage.Ends.ReadAhead
import BlockImage.Error
import BlockImage.Folder
import BlockImage.Folder.OpenFiles
import BlockImage.Head
import BlockImage.Head.Codec
import BlockImage.Image.Front
import BlockImage.Image.Info
import BlockImage.Image.Layout
import BlockImage.Job
import BlockImage.Mailbox
import BlockImage.Preflight
import BlockImage.Progress
import BlockImage.Session
import BlockImage.Session.Probe
import BlockImage.Text
import BlockImage.Text.Invisible
import BlockImage.Text.Lossy
import BlockImage.Transfer.Copying
import BlockImage.Transfer.Group
import BlockImage.Transfer.Imaging
import BlockImage.Transfer.Reading
import BlockImage.Transfer.Restoring
import BlockImage.Main
import BlockImage.Proofs.Bytes
import BlockImage.Proofs.Ends
import BlockImage.Proofs.Device
import BlockImage.Proofs.Checksum.Linear
import BlockImage.Proofs.Checksum.Residue
import BlockImage.Proofs.Bitmap.Marked
import BlockImage.Proofs.Bitmap.Greedy
import BlockImage.Proofs.Bitmap.Members
import BlockImage.Proofs.Image.Head
import BlockImage.Proofs.Image.Data
import BlockImage.Proofs.Session
import BlockImage.Proofs.Transfer.Reading
import BlockImage.Proofs.Transfer.Imaging
import BlockImage.Proofs.Image.Front
import BlockImage.Proofs.Image.Probed
import BlockImage.Proofs.Transfer.ImageBytes
import BlockImage.Proofs.Bytes.Place
import BlockImage.Proofs.Image.Decoding
import BlockImage.Proofs.Transfer.Restoring
import BlockImage.Proofs.Image.Opening
import BlockImage.Proofs.Transfer.Failures
import BlockImage.Proofs.Transfer.RoundTrip
import BlockImage.Proofs.Transfer.Confinement
import BlockImage.Proofs.Image.Damage
import BlockImage.Proofs.Transfer.Detection
import BlockImage.Proofs.Transfer.Acceptance
import BlockImage.Proofs.Transfer.Interruption
import BlockImage.Proofs.Transfer.Salvage
import BlockImage.Proofs.Transfer.PartialImage
import BlockImage.Proofs.Folder
import BlockImage.Proofs.Folder.OpenFiles
import BlockImage.Proofs.Ends.ReadAhead
import BlockImage.Proofs.Agreement
import BlockImage.Proofs.Transfer.Checking
import BlockImage.Proofs.Job.Steps
import BlockImage.Proofs.Job.Cloning
import BlockImage.Proofs.Job.Restoring
import BlockImage.Proofs.Job.RoundTrip
import BlockImage.Proofs.Job.Opening
import BlockImage.Proofs.Job.EarlyFailures
import BlockImage.Proofs.Job.SourceKept
import BlockImage.Proofs.Device.BadPlaces
import BlockImage.Proofs.Transfer.Rescue
import BlockImage.Proofs.Transfer.Attempts
import BlockImage.Proofs.Transfer.Copying
import BlockImage.Proofs.Transfer.ImagingContent
import BlockImage.Proofs.Transfer.BadSectors
import BlockImage.Proofs.Transfer.Plan
import BlockImage.Proofs.Transfer.Movement
import BlockImage.Proofs.Transfer.Pacing
import BlockImage.Proofs.Transfer.Cancellation
import BlockImage.Proofs.Transfer.Accounting
import BlockImage.Proofs.Ends.Logged
import BlockImage.Proofs.Transfer.Settling
import BlockImage.Proofs.Trapping
import BlockImage.Proofs.Trapping.Scans
import BlockImage.Proofs.Trapping.Sources
import BlockImage.Proofs.Trapping.Restoring
import BlockImage.Proofs.Trapping.Safety
import BlockImage.Proofs.Mailbox
import BlockImage.Proofs.LeadsBoth
import BlockImage.Proofs.Image.Recounted
import BlockImage.Proofs.Transfer.PlannedReads
import BlockImage.Proofs.Transfer.Predicting
import BlockImage.Proofs.Transfer.Recounting
import BlockImage.Proofs.Transfer.InTurn
import BlockImage.Proofs.Transfer.Comparing
import BlockImage.Proofs.Image.Info
import BlockImage.Proofs.Image.Rules
import BlockImage.Proofs.Image.Canonical
import BlockImage.Proofs.Image.StoredBitmap
import BlockImage.Proofs.Transfer.PredictedSize
import BlockImage.Proofs.Image.Query
import BlockImage.Proofs.Job.Memory
import BlockImage.Proofs.Transfer.FirstBytes
import BlockImage.Proofs.Double.Nearness
import BlockImage.Proofs.Double.Rounding
import BlockImage.Proofs.Double
import BlockImage.Proofs.Duration
import BlockImage.Proofs.Progress
import BlockImage.Proofs.Trapping.Words
import BlockImage.Proofs.Bitmap.Scanning
import BlockImage.Proofs.Checksum.Streaming
