import TypeFamily.Main
import TypeFamily.Pattern.Basic
import TypeFamily.Proofs.Graph.Declare
import TypeFamily.Proofs.Graph.Order
import TypeFamily.Proofs.Graph.Verdict
import TypeFamily.Proofs.Registry.Operation
import TypeFamily.Proofs.Keyed
import TypeFamily.Proofs.Registry.Invariant
import TypeFamily.Proofs.Registry.Family
import TypeFamily.Proofs.Registry.Check
import TypeFamily.Proofs.Registry.Soundness
import TypeFamily.Proofs.Registry.Alike
import TypeFamily.Proofs.Registry.Content
import TypeFamily.Proofs.Registry.Rearrange
import TypeFamily.Proofs.Registry.Rule
import TypeFamily.Proofs.Manifest.Consistent
import TypeFamily.Proofs.Registry.Standing
import TypeFamily.Proofs.Manifest.Declared
import TypeFamily.Proofs.Manifest.Faithful
import TypeFamily.Proofs.Manifest.Reorder
import TypeFamily.Proofs.Manifest.Spelling
import TypeFamily.Proofs.Toml.Quoted
import TypeFamily.Proofs.Toml.Field
import TypeFamily.Proofs.Toml.Lines
import TypeFamily.Proofs.Toml.Tables
import TypeFamily.Proofs.Toml.Outline
import TypeFamily.Proofs.Manifest.RoundTrip
import TypeFamily.Proofs.Registry.DefaultInstance
import TypeFamily.Proofs.Registry.InPlace
import TypeFamily.Proofs.Registry.Report
import TypeFamily.Proofs.Text.Escape
import TypeFamily.Proofs.Cli.Check
import TypeFamily.Proofs.Graph.Levels
import TypeFamily.Proofs.Registry.Resolution
import TypeFamily.Proofs.Registry.Persistence
import TypeFamily.Proofs.Manifest.Creation
import TypeFamily.Proofs.Registry.KnownNames
import TypeFamily.Proofs.Manifest.Acceptance
import TypeFamily.Proofs.Registry.Identity
import TypeFamily.Proofs.Cli.Ownership
