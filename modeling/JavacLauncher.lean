import JavacLauncher.Main
import JavacLauncher.Machine.Workspace
import JavacLauncher.Proofs.Arguments.Classpath
import JavacLauncher.Proofs.Arguments.Extraction
import JavacLauncher.Proofs.Arguments.OnePass
import JavacLauncher.Proofs.Arguments.Partition
import JavacLauncher.Proofs.Text.Pieces
import JavacLauncher.Proofs.Text.Trim
import JavacLauncher.Proofs.Text.Utf8
import JavacLauncher.Proofs.Plan.BootOption
import JavacLauncher.Proofs.Path.Reduced
import JavacLauncher.Proofs.Install.Search
import JavacLauncher.Proofs.Launch.Planned
import JavacLauncher.Proofs.Launch.Starts
import JavacLauncher.Proofs.Location.Address
import JavacLauncher.Proofs.Arguments.Insertion
import JavacLauncher.Proofs.Arguments.Session
import JavacLauncher.Proofs.Invocation.ShellWords
import JavacLauncher.Proofs.Launch.Stages
import JavacLauncher.Proofs.Config.Overrides
import JavacLauncher.Proofs.Config.Fields
import JavacLauncher.Proofs.Config.Objects
import JavacLauncher.Proofs.Config.Precedence
import JavacLauncher.Proofs.Location.Grammar
import JavacLauncher.Proofs.Arguments.LineBreak
import JavacLauncher.Proofs.Plan.RuntimeOptions
import JavacLauncher.Proofs.Arguments.Order
import JavacLauncher.Proofs.Arguments.Seam
import JavacLauncher.Proofs.Invocation.Line
import JavacLauncher.Proofs.Plan.Agreement
import JavacLauncher.Proofs.Plan.PathLists
import JavacLauncher.Proofs.Path.Absolute
import JavacLauncher.Proofs.Path.Composition
import JavacLauncher.Proofs.Path.Parent
import JavacLauncher.Proofs.Location.Relative
import JavacLauncher.Proofs.Location.Decoding
import JavacLauncher.Proofs.Install.Decision
import JavacLauncher.Proofs.Install.Growth
import JavacLauncher.Proofs.Version.Grammar
import JavacLauncher.Proofs.Version.Greeting
import JavacLauncher.Proofs.Config.Absence
import JavacLauncher.Proofs.Install.Layout
import JavacLauncher.Proofs.Shell.Pattern
import JavacLauncher.Proofs.Launch.InShell
import JavacLauncher.Proofs.Tool.Search
import JavacLauncher.Proofs.Machine.FileTree
