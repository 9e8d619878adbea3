import Eth2Libp2p.PeerDB.Runs
import Eth2Libp2p.RPC.Window
import Eth2Libp2p.PeerManager.PruneOutcomes
import Eth2Libp2p.PeerManager.Connections
import Eth2Libp2p.PeerManager.ConnectionEvents
import Eth2Libp2p.PeerManager.Heartbeat
import Eth2Libp2p.PeerManager.Discovery
import Eth2Libp2p.PeerManager.TemporaryBans
import Eth2Libp2p.PeerDB.EvictionOrder
import Eth2Libp2p.PeerDB.Gossipsub
import Eth2Libp2p.RPC.RPCRateLimiter
import Eth2Libp2p.Discovery.Enr
import Eth2Libp2p.PeerManager.MetaDataExchange
import Eth2Libp2p.RPC.Builder
import Eth2Libp2p.PeerDB.Client
import Eth2Libp2p.PeerManager.SubnetDiscovery
import Eth2Libp2p.Service.Subscriptions
import Eth2Libp2p.Discovery.BuildEnr
