import Dialogue.Config.Json
import Dialogue.EventStream.Delivery
import Dialogue.Main
import Dialogue.Terminal.Paths
import Dialogue.Proofs.Session.Streams
import Dialogue.Proofs.Session.Queueing
import Dialogue.Proofs.Session.Watching
import Dialogue.Proofs.Session.Racing
import Dialogue.Proofs.Session.Deciding
import Dialogue.Proofs.Session.Refusing
import Dialogue.Proofs.Session.Ignoring
import Dialogue.Proofs.Usage
import Dialogue.Proofs.Session.Accounting
import Dialogue.Proofs.Approval
import Dialogue.Proofs.Session.Sparing
import Dialogue.Proofs.Session.Draining
import Dialogue.Proofs.Session.Fates
import Dialogue.Proofs.Session.Latching
import Dialogue.Proofs.Session.LastTick
import Dialogue.Proofs.Session.Accumulating
import Dialogue.Proofs.Session.Asking
import Dialogue.Proofs.Session.Identifying
import Dialogue.Proofs.Session.Restoring
import Dialogue.Proofs.Transcript.Retaining
import Dialogue.Proofs.EventStream.Delivering
import Dialogue.Proofs.EventStream.Tokens
import Dialogue.Proofs.Session.Repeating
import Dialogue.Proofs.Terminal.Rendering
import Dialogue.Proofs.Session.Approving
import Dialogue.Proofs.Approval.Progressing
import Dialogue.Proofs.Session.Confining
import Dialogue.Proofs.Session.Stopping
import Dialogue.Proofs.Session.Noting
import Dialogue.Proofs.Approval.Listing
import Dialogue.Proofs.Session.Totalling
import Dialogue.Proofs.Usage.Merging
import Dialogue.Proofs.Event.Decoding
import Dialogue.Proofs.Session.Rereading
import Dialogue.Proofs.Terminal.Instruction
import Dialogue.Proofs.Event.Failing
import Dialogue.Proofs.Terminal.Announcing
import Dialogue.Proofs.Config.Addressing
import Dialogue.Proofs.Usage.Spacing
import Dialogue.Proofs.Session.Loading
