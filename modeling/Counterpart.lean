import Counterpart.Main
import Counterpart.Proofs.CommandLine.Agreement
import Counterpart.Proofs.CommandLine.Failures
import Counterpart.Proofs.CommandLine.Seconds
import Counterpart.Proofs.ExtensionTable.Entries
import Counterpart.Proofs.ExtensionTable.Rebuilding
import Counterpart.Proofs.Framework.Candidates
import Counterpart.Proofs.Include.Ascending
import Counterpart.Proofs.Lookup.Companions
import Counterpart.Proofs.Lookup.Interchange
import Counterpart.Proofs.Lookup.Reaping
import Counterpart.Proofs.Lookup.Scripted
import Counterpart.Proofs.Lookup.Shadowing
import Counterpart.Proofs.Lookup.Spellings
import Counterpart.Proofs.Lookup.Suffixes
import Counterpart.Proofs.Scan.Cancellation
import Counterpart.Proofs.Scan.Interleaving
import Counterpart.Proofs.Scan.Lines
import Counterpart.Proofs.Search.TakeOne
import Counterpart.Proofs.Settings.Tables
