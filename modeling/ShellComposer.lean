import ShellComposer.Session
import ShellComposer.Block.InPlace
import ShellComposer.Block.Search
import ShellComposer.Block.Turns
import ShellComposer.Repair.InPlace
import ShellComposer.Catalog.OnePass
import ShellComposer.Proofs.Walk
import ShellComposer.Proofs.Searching
import ShellComposer.Proofs.WellLinked
import ShellComposer.Proofs.Paths
import ShellComposer.Proofs.Editing
import ShellComposer.Proofs.Repairing
import ShellComposer.Proofs.GraphRuns
import ShellComposer.Proofs.Conditions
import ShellComposer.Proofs.Unplugging
import ShellComposer.Proofs.Rationing
import ShellComposer.Proofs.TakenOut
import ShellComposer.Proofs.Detaching
import ShellComposer.Proofs.Berths
import ShellComposer.Proofs.Moving
import ShellComposer.Proofs.Restoring
import ShellComposer.Proofs.Deleting
import ShellComposer.Proofs.Reaction
import ShellComposer.Proofs.Mutating
import ShellComposer.Proofs.Refusing
import ShellComposer.Proofs.Templated
import ShellComposer.Proofs.Ending
import ShellComposer.Proofs.Reading
import ShellComposer.Proofs.Emitted
import ShellComposer.Proofs.Loaded
import ShellComposer.Proofs.Settled
import ShellComposer.Proofs.Checking
import ShellComposer.Proofs.Attached
import ShellComposer.Proofs.Gate
import ShellComposer.Proofs.Surplus
import ShellComposer.Proofs.Pruning
import ShellComposer.Proofs.Pruned
import ShellComposer.Proofs.Following
import ShellComposer.Proofs.Ledger
import ShellComposer.Proofs.Resuming
import ShellComposer.Proofs.SameScript
import ShellComposer.Proofs.Enabling
import ShellComposer.Proofs.Orphans
import ShellComposer.Proofs.Positions
import ShellComposer.Proofs.Typing
import ShellComposer.Proofs.Assembling
import ShellComposer.Proofs.Building
import ShellComposer.Proofs.OwnRules
import ShellComposer.Proofs.Matching
import ShellComposer.Proofs.Onward
import ShellComposer.Proofs.Enclosed
import ShellComposer.Proofs.EnclosedClasses
import ShellComposer.Proofs.EnclosedPatterns
import ShellComposer.Proofs.Ordered
import ShellComposer.Proofs.Anchoring
import ShellComposer.Proofs.Logging
import ShellComposer.Proofs.Delivering
import ShellComposer.Proofs.Rereading
import ShellComposer.Proofs.Decoding
import ShellComposer.Proofs.Reloading
import ShellComposer.Proofs.Nested
import ShellComposer.Proofs.Reporting
import ShellComposer.Proofs.Keyed
import ShellComposer.Proofs.Removals
import ShellComposer.Proofs.Accounting
import ShellComposer.Proofs.Conflicting
import ShellComposer.Proofs.Tooltip
import ShellComposer.Proofs.Spelling
import ShellComposer.Proofs.Spelled
import ShellComposer.Proofs.Rearranging
import ShellComposer.Proofs.Locating
import ShellComposer.Proofs.Drafting
import ShellComposer.Proofs.Maxima
import ShellComposer.Proofs.Navigating
import ShellComposer.Proofs.Bookkeeping
import ShellComposer.Proofs.Labelling
