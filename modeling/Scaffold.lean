import Scaffold.Program
import Scaffold.Main
import Scaffold.Proofs.Component
import Scaffold.Proofs.Disk.Places
import Scaffold.Proofs.Route.Stability
import Scaffold.Proofs.Route.FreeLines
import Scaffold.Proofs.Route.Classification
import Scaffold.Proofs.Route.Registrations
import Scaffold.Proofs.Route.InStep
import Scaffold.Proofs.Disk.Replacement
import Scaffold.Proofs.Route.InPlace
import Scaffold.Proofs.Settings.ModuleFile
import Scaffold.Proofs.Route.Commands
import Scaffold.Proofs.Route.Targets
import Scaffold.Proofs.Route.Independence
import Scaffold.Proofs.Disk.Uncovering
import Scaffold.Proofs.OldFiles
import Scaffold.Proofs.Steps
import Scaffold.Proofs.Confinement
import Scaffold.Proofs.Disk.Below
import Scaffold.Proofs.Abort
import Scaffold.Proofs.InsideRoot
import Scaffold.Proofs.Route.Convergence
import Scaffold.Proofs.Route.FoundAgain
import Scaffold.Proofs.Route.Rearrangement
import Scaffold.Proofs.Disk.Climbing
import Scaffold.Proofs.Settings.Layering
import Scaffold.Proofs.Route.OneLineMore
import Scaffold.Proofs.Route.AppendedStubs
import Scaffold.Proofs.Route.CalledBelow
import Scaffold.Proofs.Disk.Staging
import Scaffold.Proofs.Route.Refinement
import Scaffold.Proofs.Text.TitleCase
import Scaffold.Proofs.Text.AsciiCase
import Scaffold.Proofs.Route.Spellings
import Scaffold.Proofs.Route.QuotedPath
import Scaffold.Proofs.Route.MarkerPosition
