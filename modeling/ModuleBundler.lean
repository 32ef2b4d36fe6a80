import ModuleBundler.Main
import ModuleBundler.Proofs.Build.Again
import ModuleBundler.Proofs.Build.Assets
import ModuleBundler.Proofs.Build.Boot
import ModuleBundler.Proofs.Build.Chunks
import ModuleBundler.Proofs.Build.Depth
import ModuleBundler.Proofs.Build.Emitted
import ModuleBundler.Proofs.Build.Header
import ModuleBundler.Proofs.Build.Identity
import ModuleBundler.Proofs.Build.Manifest
import ModuleBundler.Proofs.Build.Output
import ModuleBundler.Proofs.Build.Phases
import ModuleBundler.Proofs.Build.Separate
import ModuleBundler.Proofs.Build.Sequence
import ModuleBundler.Proofs.Bundle.Key
import ModuleBundler.Proofs.Command.Override
import ModuleBundler.Proofs.FileSystem.Normal
import ModuleBundler.Proofs.Graph.History
import ModuleBundler.Proofs.Graph.Search
import ModuleBundler.Proofs.Import.Declaration
import ModuleBundler.Proofs.Import.InOrder
import ModuleBundler.Proofs.Path.Canonical
import ModuleBundler.Proofs.Persist.Atomic
import ModuleBundler.Proofs.Persist.Outside
import ModuleBundler.Proofs.Plugin.Define
import ModuleBundler.Proofs.Text.Position
import ModuleBundler.Proofs.Transform.Pipeline
