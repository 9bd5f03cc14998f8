import Corpus.Main
import Corpus.Parse.Session
import Corpus.Random.Cycle
import Corpus.Proofs.Batch.Discovery
import Corpus.Proofs.Batch.Isolation
import Corpus.Proofs.Batch.Output
import Corpus.Proofs.Batch.Schedule
import Corpus.Proofs.Source.Conservation
import Corpus.Proofs.Source.Gaps
import Corpus.Proofs.Source.Reproduction
import Corpus.Proofs.Token.Advance
import Corpus.Proofs.Token.Boundary
import Corpus.Proofs.Token.Comment
import Corpus.Proofs.Token.Directive
import Corpus.Proofs.Token.Locality
import Corpus.Proofs.Token.SinglePass
import Corpus.Proofs.Token.StringLiteral
import Corpus.Proofs.Window.Appending
import Corpus.Proofs.Window.Exact
import Corpus.Proofs.Window.Reassembly
import Corpus.Proofs.Parse.Rounds
import Corpus.Proofs.Parse.Alternatives
import Corpus.Proofs.Parse.Process
import Corpus.Proofs.Token.Ending
import Corpus.Proofs.Batch.Seeds
import Corpus.Proofs.Disk.Elsewhere
import Corpus.Proofs.Batch.Listing
import Corpus.Proofs.Batch.Repetition
import Corpus.Proofs.Disk.Directories
import Corpus.Proofs.CommandLine.Harmless
import Corpus.Proofs.CommandLine.Arguments
import Corpus.Proofs.CommandLine.Verbosity
