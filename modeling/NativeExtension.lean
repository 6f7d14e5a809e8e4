import NativeExtension.Main
import NativeExtension.Proofs.Command.Flags
import NativeExtension.Proofs.CommandLine.Diagnostics
import NativeExtension.Proofs.CommandLine.Limits
import NativeExtension.Proofs.Control.OwnKeys
import NativeExtension.Proofs.Control.RoundTrip
import NativeExtension.Proofs.Control.Update
import NativeExtension.Proofs.Declaration.Constants
import NativeExtension.Proofs.Declaration.Exactness
import NativeExtension.Proofs.Declaration.Language
import NativeExtension.Proofs.Declaration.LetterCase
import NativeExtension.Proofs.Declaration.Separation
import NativeExtension.Proofs.Deployment.Others
import NativeExtension.Proofs.Host.OneLine
import NativeExtension.Proofs.Manifest.Acceptance
import NativeExtension.Proofs.Pipeline.Coherence
import NativeExtension.Proofs.Pipeline.Escapes
import NativeExtension.Proofs.Pipeline.Freshness
import NativeExtension.Proofs.Pipeline.Mirrors
import NativeExtension.Proofs.Pipeline.Order
import NativeExtension.Proofs.Pipeline.Places
import NativeExtension.Proofs.Pipeline.Repetition
import NativeExtension.Proofs.Pipeline.Reports
import NativeExtension.Proofs.Program.Reported
import NativeExtension.Proofs.Project.Script
import NativeExtension.Proofs.Registration.Repeated
import NativeExtension.Proofs.Registration.Scanned
