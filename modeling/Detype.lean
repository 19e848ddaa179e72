import Detype.Main
import Detype.Proofs.Files.PathNames
import Detype.Proofs.Files.Resolution
import Detype.Proofs.Files.Walk
import Detype.Proofs.Files.Way
import Detype.Proofs.Files.Errand
import Detype.Proofs.Files.Sound
import Detype.Proofs.Run.Collected
import Detype.Proofs.Run.Step
import Detype.Proofs.Run.Steps
import Detype.Proofs.Run.Printing
import Detype.Proofs.Run.Outputs
import Detype.Proofs.Files.Overlay
import Detype.Proofs.Run.Schedules
import Detype.Proofs.Run.Abort
import Detype.Proofs.Json.Rendering
import Detype.Proofs.Json.Lexemes
import Detype.Proofs.Json.Alignment
import Detype.Proofs.ProjectText
import Detype.Proofs.Diagnostics
import Detype.Proofs.Files.Follow
import Detype.Proofs.Files.Changes
import Detype.Proofs.Influence
import Detype.Proofs.Run.StandardInput
import Detype.Proofs.Run.Accounts
import Detype.Proofs.Files.Listing
import Detype.Proofs.Run.Again
import Detype.Proofs.KindDiagnostics
import Detype.Proofs.Run.Reporting
import Detype.Proofs.Scripts
import Detype.Proofs.Run.Destinations
import Detype.Proofs.Run.Footprint
import Detype.Proofs.Run.Sources
import Detype.Proofs.Json.Printed
import Detype.Proofs.Run.JsonReport
import Detype.Proofs.ByteOrderMark
import Detype.Proofs.Run.FailedFiles
import Detype.Proofs.Run.Harvest
import Detype.Proofs.Syntax.Waits
import Detype.Proofs.Positions
import Detype.Proofs.Repetitions
import Detype.Proofs.Syntax.Functions
import Detype.Proofs.Json.Segments
import Detype.Proofs.ProjectLines
import Detype.Proofs.Json.CommentedText
import Detype.Proofs.Json.Unstripped
import Detype.Proofs.Files.Added
import Detype.Proofs.Run.Bystanders
import Detype.Proofs.Run.Packages
import Detype.Proofs.Run.WholeLines
import Detype.Proofs.EffectiveOptions
import Detype.Proofs.OptionsData
import Detype.Proofs.MachineReport
import Detype.Proofs.DataReport
import Detype.Proofs.CommandLine
import Detype.Proofs.Json.ByIndex
