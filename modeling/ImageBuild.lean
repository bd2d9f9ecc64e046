import ImageBuild.Main
import ImageBuild.Proofs.Context.NormalizedRoot
import ImageBuild.Proofs.Context.Spellings
import ImageBuild.Proofs.Daemon.DockerfileName
import ImageBuild.Proofs.Json.RoundTrip
import ImageBuild.Proofs.Registry.HeaderMap
import ImageBuild.Proofs.Registry.HeaderRoundTrip
import ImageBuild.Proofs.Registry.StoredPipeline
import ImageBuild.Proofs.Registry.Attached
import ImageBuild.Proofs.Daemon.Headers
import ImageBuild.Proofs.Daemon.PlainText
import ImageBuild.Proofs.CommandLine.Pairs
import ImageBuild.Proofs.Path.Drive
import ImageBuild.Proofs.Text.LowerCase
import ImageBuild.Proofs.Path.DriveRelative
import ImageBuild.Proofs.Context.DriveContainment
import ImageBuild.Proofs.Context.Stability
import ImageBuild.Proofs.Registry.HeaderForm
import ImageBuild.Proofs.Text.SmallLetters
import ImageBuild.Proofs.Path.Trimmed
import ImageBuild.Proofs.Context.OtherDrive
import ImageBuild.Proofs.Context.RootName
import ImageBuild.Proofs.Daemon.EmptyName
import ImageBuild.Proofs.Registry.StoredLogin
import ImageBuild.Proofs.Registry.Entries
import ImageBuild.Proofs.Registry.Defects
import ImageBuild.Proofs.Registry.Canonical
import ImageBuild.Proofs.Registry.LoginBytes
import ImageBuild.Proofs.Registry.Rejected
import ImageBuild.Proofs.Registry.ConfigFile
import ImageBuild.Proofs.Request.Reference
import ImageBuild.Proofs.Request.TextParameters
import ImageBuild.Proofs.Log.Idempotence
import ImageBuild.Proofs.Log.HeaderValue
import ImageBuild.Proofs.Log.CredentialText
import ImageBuild.Proofs.Retry
import ImageBuild.Proofs.CommandLine.Preview
import ImageBuild.Proofs.Archive.Lifecycle
import ImageBuild.Proofs.Archive.Rejected
import ImageBuild.Proofs.Report
