import InputBindings.Main
import InputBindings.Catalog.Script
import InputBindings.Sink.Desk
import InputBindings.Proofs.Action
import InputBindings.Proofs.Keyed
import InputBindings.Proofs.Emission
import InputBindings.Proofs.Batches
import InputBindings.Proofs.Characters
import InputBindings.Proofs.Identifier.Layout
import InputBindings.Proofs.Identifier.Passes
import InputBindings.Proofs.Identifier.Instantiation
import InputBindings.Proofs.Identifier.Mangling
import InputBindings.Proofs.Sink.Stack
import InputBindings.Proofs.Sink.Forest
import InputBindings.Proofs.Sink.Body
import InputBindings.Proofs.Unambiguity
import InputBindings.Proofs.Catalog.History
import InputBindings.Proofs.Manifest.Names
import InputBindings.Proofs.Manifest.Checks
import InputBindings.Proofs.Manifest.Defects
import InputBindings.Proofs.Faults
import InputBindings.Proofs.Selection
import InputBindings.Proofs.Files
import InputBindings.Proofs.Files.Changed
import InputBindings.Proofs.Footprint
import InputBindings.Proofs.Draft
import InputBindings.Proofs.Surface
import InputBindings.Proofs.Guards
import InputBindings.Proofs.LineFeeds
import InputBindings.Proofs.Identifier.Bare
import InputBindings.Proofs.Writable
import InputBindings.Proofs.Options
import InputBindings.Proofs.Reporting
import InputBindings.Proofs.Manifest.Repetitions
import InputBindings.Proofs.Decimals
import InputBindings.Proofs.CommandLine
import InputBindings.Proofs.Listing
import InputBindings.Proofs.Number.Rounding
import InputBindings.Proofs.Similarity
import InputBindings.Proofs.Catalog.Suggestions
