import Ospfd.Config.Conveyance
import Ospfd.Config.Parse
import Ospfd.Config.Passwords
import Ospfd.Config.Validation
import Ospfd.Const
import Ospfd.Lib.Dict
import Ospfd.Lib.Effect
import Ospfd.Lib.Latest
import Ospfd.Lib.LazySearch
import Ospfd.Lib.Moves
import Ospfd.Lib.Scan
import Ospfd.Lib.Struct
import Ospfd.Lib.Ties
import Ospfd.Lib.Views
import Ospfd.Lsdb.Acknowledgment
import Ospfd.Lsdb.Ages
import Ospfd.Lsdb.Aging
import Ospfd.Lsdb.Areas
import Ospfd.Lsdb.Bounds
import Ospfd.Lsdb.Carried
import Ospfd.Lsdb.Confined
import Ospfd.Lsdb.Content
import Ospfd.Lsdb.Convergence
import Ospfd.Lsdb.Coverage
import Ospfd.Lsdb.Database
import Ospfd.Lsdb.Delivery
import Ospfd.Lsdb.FightBack
import Ospfd.Lsdb.Fitting
import Ospfd.Lsdb.Flooding
import Ospfd.Lsdb.Integrity
import Ospfd.Lsdb.Objects
import Ospfd.Lsdb.Origination
import Ospfd.Lsdb.Packable
import Ospfd.Lsdb.Queued
import Ospfd.Lsdb.Recency
import Ospfd.Lsdb.Reception
import Ospfd.Lsdb.Renewal
import Ospfd.Lsdb.RouterLinks
import Ospfd.Lsdb.Scope
import Ospfd.Lsdb.Silence
import Ospfd.Lsdb.Spread
import Ospfd.Lsdb.Succession
import Ospfd.Lsdb.Summaries
import Ospfd.Lsdb.Updates
import Ospfd.Lsdb.Verdict
import Ospfd.Network.Copies
import Ospfd.Network.Integrity
import Ospfd.Network.LoopFree
import Ospfd.Network.Neighbors
import Ospfd.Network.Provenance
import Ospfd.Network.Receipts
import Ospfd.Packet.Body
import Ospfd.Packet.Checksum
import Ospfd.Packet.Codecs
import Ospfd.Packet.Fletcher
import Ospfd.Packet.Header
import Ospfd.Packet.Locality
import Ospfd.Packet.Lsa
import Ospfd.Packet.OnesSum
import Ospfd.Packet.Reencoding
import Ospfd.Packet.RoundTrip
import Ospfd.Packet.Wire
import Ospfd.Protocol.Acceptance
import Ospfd.Protocol.Access
import Ospfd.Protocol.Adjacency
import Ospfd.Protocol.Bidirectional
import Ospfd.Protocol.Checksums
import Ospfd.Protocol.Conduct
import Ospfd.Protocol.Counter
import Ospfd.Protocol.Current
import Ospfd.Protocol.Dialogue
import Ospfd.Protocol.Dispatch
import Ospfd.Protocol.Election
import Ospfd.Protocol.ElectionAgreement
import Ospfd.Protocol.Events
import Ospfd.Protocol.Exchange
import Ospfd.Protocol.Failover
import Ospfd.Protocol.Instance
import Ospfd.Protocol.Interface
import Ospfd.Protocol.Lifecycle
import Ospfd.Protocol.Limit
import Ospfd.Protocol.Moves
import Ospfd.Protocol.Neighbor
import Ospfd.Protocol.Nesting
import Ospfd.Protocol.Outcome
import Ospfd.Protocol.Procedures
import Ospfd.Protocol.Reelection
import Ospfd.Protocol.Retransmission
import Ospfd.Protocol.Roles
import Ospfd.Protocol.Runs
import Ospfd.Protocol.Seats
import Ospfd.Protocol.Sending
import Ospfd.Protocol.Sequence
import Ospfd.Protocol.Services
import Ospfd.Protocol.State
import Ospfd.Protocol.Terms
import Ospfd.Protocol.Transport
import Ospfd.Protocol.Turns
import Ospfd.Protocol.Waiting
import Ospfd.Spf.Correctness
import Ospfd.Spf.Dijkstra
import Ospfd.Spf.Eligible
import Ospfd.Spf.External
import Ospfd.Spf.Forwarding
import Ospfd.Spf.HoldDown
import Ospfd.Spf.Kernel
import Ospfd.Spf.Masks
import Ospfd.Spf.Nexthops
import Ospfd.Spf.Pending
import Ospfd.Spf.Routes
import Ospfd.Spf.RoutingTable
import Ospfd.Spf.Run
import Ospfd.Spf.Vertices
import Ospfd.Sr.Advertising
import Ospfd.Sr.Areas
import Ospfd.Sr.Configured
import Ospfd.Sr.Database
import Ospfd.Sr.Eligible
import Ospfd.Sr.Labels
import Ospfd.Sr.Opaque
import Ospfd.Sr.Origination
import Ospfd.Sr.Php
import Ospfd.Sr.RouterInfo
import Ospfd.Sr.Siblings
import Ospfd.Sr.Spf
import Ospfd.Sr.Tlv
import Ospfd.Util.Timer
