import Phrasemill.CommandLine.Directory
import Phrasemill.Main
import Phrasemill.Proofs.Crew
import Phrasemill.Proofs.Crew.Draws
import Phrasemill.Proofs.Crew.Accounts
import Phrasemill.Proofs.History
import Phrasemill.Proofs.Partition.Attempt
import Phrasemill.Proofs.Partition.Demand
import Phrasemill.Proofs.Syntax.Recognition
import Phrasemill.Proofs.History.Order
import Phrasemill.Proofs.Crew.Replies
import Phrasemill.Proofs.Language.Calls
import Phrasemill.Proofs.Language
import Phrasemill.Proofs.Partition.Values
import Phrasemill.Proofs.Quiet
import Phrasemill.Proofs.Constancy
import Phrasemill.Proofs.Partition.Silent
import Phrasemill.Proofs.Partition.Loss
import Phrasemill.Proofs.Session.Edits
import Phrasemill.Proofs.Token.Forms
import Phrasemill.Proofs.Token.Munch
import Phrasemill.Proofs.Token.Boundary
import Phrasemill.Proofs.Token.Decoding
import Phrasemill.Proofs.Token.Scan
import Phrasemill.Proofs.Token.Lines
import Phrasemill.Proofs.Token.Comments
import Phrasemill.Proofs.Token.Quotes
import Phrasemill.Proofs.Token.Writing
import Phrasemill.Proofs.Cycles
import Phrasemill.Proofs.CommandLine
import Phrasemill.Proofs.History.Captures
import Phrasemill.Proofs.Receivers
import Phrasemill.Proofs.Steady
import Phrasemill.Proofs.Pool.Checkpoints
import Phrasemill.Proofs.Forms
import Phrasemill.Proofs.Foretold
import Phrasemill.Proofs.Idle
import Phrasemill.Proofs.Syntax.Incremental
import Phrasemill.Proofs.Syntax.Viability
import Phrasemill.Evaluator
import Phrasemill.Proofs.NormalForm
import Phrasemill.Proofs.Evaluator
import Phrasemill.Proofs.Syntax.FaultLines
