import MessageBus.Broker.Bench
import MessageBus.Frame.Writer
import MessageBus.Main
import MessageBus.Network.Call
import MessageBus.Proofs.Admission
import MessageBus.Proofs.Subscriptions
import MessageBus.Proofs.Edit
import MessageBus.Proofs.Invariant
import MessageBus.Proofs.Sweep
import MessageBus.Proofs.Run
import MessageBus.Proofs.Identities
import MessageBus.Proofs.Routing
import MessageBus.Proofs.Cascade
import MessageBus.Proofs.Loggers
import MessageBus.Proofs.Registries
import MessageBus.Proofs.Failures
import MessageBus.Proofs.Wishes
import MessageBus.Proofs.Framing
import MessageBus.Proofs.Calls
import MessageBus.Proofs.Conversation
import MessageBus.Proofs.Exchange
import MessageBus.Proofs.Isolation
import MessageBus.Proofs.Reading
import MessageBus.Proofs.Streams
import MessageBus.Proofs.Forwarding
import MessageBus.Proofs.Interests
import MessageBus.Proofs.Turns
import MessageBus.Proofs.Requests
import MessageBus.Proofs.Orderly
import MessageBus.Proofs.Enrollment
import MessageBus.Proofs.Notices
import MessageBus.Proofs.Chronicle
import MessageBus.Proofs.Directory
import MessageBus.Proofs.Scanning
import MessageBus.Proofs.Ledger
import MessageBus.Proofs.Errands
import MessageBus.Proofs.Session
import MessageBus.Proofs.Codecs
import MessageBus.Proofs.Texts
import MessageBus.Proofs.Recovery
import MessageBus.Proofs.Tallies
import MessageBus.Proofs.Counting
import MessageBus.Proofs.Traffic
import MessageBus.Proofs.Circle
import MessageBus.Proofs.Refusals
import MessageBus.Proofs.Dropped
import MessageBus.Proofs.Obituaries
import MessageBus.Proofs.Departures
import MessageBus.Proofs.Overrides
import MessageBus.Proofs.Reuse
import MessageBus.Proofs.Timings
import MessageBus.Proofs.Numbering
import MessageBus.Proofs.Strand
import MessageBus.Proofs.Reconnection
import MessageBus.Proofs.Conduct
import MessageBus.Proofs.Sending
import MessageBus.Proofs.Clearing
import MessageBus.Proofs.Listing
import MessageBus.Proofs.Clipped
import MessageBus.Proofs.Naming
import MessageBus.Proofs.Destinations
import MessageBus.Proofs.Bursts
import MessageBus.Proofs.Boundaries
