import CipherMesh.Foundation.Arrival
import CipherMesh.Foundation.Bytes
import CipherMesh.Foundation.Codec
import CipherMesh.Foundation.Collections
import CipherMesh.Foundation.Drain
import CipherMesh.Foundation.Ensures
import CipherMesh.Foundation.Fold
import CipherMesh.Foundation.Format
import CipherMesh.Foundation.Gossip
import CipherMesh.Foundation.Greatest
import CipherMesh.Foundation.Hex
import CipherMesh.Foundation.Join
import CipherMesh.Foundation.Moves
import CipherMesh.Foundation.Mutation
import CipherMesh.Foundation.Reachability
import CipherMesh.Foundation.Sequencer
import CipherMesh.Foundation.Table
import CipherMesh.Crypto.Derivation
import CipherMesh.Crypto.Primitives
import CipherMesh.Crypto.Symbolic
import CipherMesh.Ratchet.Decryption
import CipherMesh.Ratchet.Delivery
import CipherMesh.Ratchet.Invariant
import CipherMesh.Ratchet.KeyTree
import CipherMesh.Ratchet.Positions
import CipherMesh.Ratchet.Rejection
import CipherMesh.Ratchet.Session
import CipherMesh.Handshake.Actors
import CipherMesh.Handshake.Compromise
import CipherMesh.Handshake.Devices
import CipherMesh.Handshake.Established
import CipherMesh.Handshake.Healing
import CipherMesh.Handshake.KeyUse
import CipherMesh.Handshake.Prekeys
import CipherMesh.Handshake.SignedBytes
import CipherMesh.Link.Agreement
import CipherMesh.Link.Basic
import CipherMesh.Link.Envelopes
import CipherMesh.Link.Lag
import CipherMesh.Link.Rotation
import CipherMesh.Link.Window
import CipherMesh.Storage.Contacts
import CipherMesh.Storage.Conversations
import CipherMesh.Storage.Database
import CipherMesh.Storage.DevicePairs
import CipherMesh.Storage.Devices
import CipherMesh.Storage.Events
import CipherMesh.Storage.Merge
import CipherMesh.Storage.Messages
import CipherMesh.Storage.Order
import CipherMesh.Storage.Outbox
import CipherMesh.Storage.Summaries
import CipherMesh.Storage.Union
import CipherMesh.Storage.Views
import CipherMesh.Rendezvous.Address
import CipherMesh.Rendezvous.Admission
import CipherMesh.Rendezvous.Agreement
import CipherMesh.Rendezvous.Dialing
import CipherMesh.Rendezvous.Encoding
import CipherMesh.Rendezvous.Inviter
import CipherMesh.Rendezvous.Joiner
import CipherMesh.Rendezvous.Network
import CipherMesh.Rendezvous.Payload
import CipherMesh.Rendezvous.Service
import CipherMesh.Rendezvous.SingleUse
import CipherMesh.Rendezvous.Skew
import CipherMesh.Rendezvous.Trace
import CipherMesh.Rendezvous.Window
import CipherMesh.Chat.Acknowledgement
import CipherMesh.Chat.Attack
import CipherMesh.Chat.Clearing
import CipherMesh.Chat.Delivery
import CipherMesh.Chat.Drained
import CipherMesh.Chat.Draining
import CipherMesh.Chat.Effects
import CipherMesh.Chat.EventEffects
import CipherMesh.Chat.Filing
import CipherMesh.Chat.Flush
import CipherMesh.Chat.FlushEnds
import CipherMesh.Chat.Handling
import CipherMesh.Chat.History
import CipherMesh.Chat.Impersonation
import CipherMesh.Chat.Listener
import CipherMesh.Chat.Loop
import CipherMesh.Chat.MessageIds
import CipherMesh.Chat.Mirror
import CipherMesh.Chat.PairedChat
import CipherMesh.Chat.Pairing
import CipherMesh.Chat.Queues
import CipherMesh.Chat.Removal
import CipherMesh.Chat.Reopening
import CipherMesh.Chat.Responses
import CipherMesh.Chat.Retry
import CipherMesh.Chat.Sending
import CipherMesh.Chat.Soundness
import CipherMesh.Chat.Tampering
import CipherMesh.Chat.Tracking
import CipherMesh.Mailbox.Fetch
import CipherMesh.Mailbox.LifeCycle
import CipherMesh.Mailbox.Outbox
import CipherMesh.Mailbox.OutboxRun
import CipherMesh.Mailbox.Receipt
import CipherMesh.Mailbox.Receiver
import CipherMesh.Mailbox.Server
import CipherMesh.Mailbox.Storage
import CipherMesh.Mailbox.WriteAhead
import CipherMesh.Devices.FanOut
import CipherMesh.Devices.FanOutRun
import CipherMesh.Devices.Isolation
import CipherMesh.Sync.Content
import CipherMesh.Sync.Convergence
import CipherMesh.Sync.Crdt
import CipherMesh.Sync.Gossip
import CipherMesh.Sync.Materialize
import CipherMesh.Sync.Meaning
import CipherMesh.Sync.Quiet
import CipherMesh.Sync.Revocation
import CipherMesh.Sync.Round
import CipherMesh.Sync.Unauthentic
import CipherMesh.Sync.Unsigned
import CipherMesh.Sync.Vectors
