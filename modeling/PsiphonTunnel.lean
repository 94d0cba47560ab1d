import PsiphonTunnel.BucketProofs
import PsiphonTunnel.ServerEntryProofs
import PsiphonTunnel.DataStoreProofs
import PsiphonTunnel.IteratorProofs
import PsiphonTunnel.IteratorCycleProofs
import PsiphonTunnel.PersistentStatProofs
import PsiphonTunnel.DataStoreRunProofs
import PsiphonTunnel.ObfuscatorProofs
import PsiphonTunnel.ClientHelloProofs
import PsiphonTunnel.TrafficRulesProofs
import PsiphonTunnel.DiscoveryProofs
import PsiphonTunnel.TLSDialProofs
import PsiphonTunnel.ResetOrderProofs
import PsiphonTunnel.StoreScanProofs
import PsiphonTunnel.CacheBucketsProofs
import PsiphonTunnel.PsinetProofs
import PsiphonTunnel.ServerEntryEncodingProofs
import PsiphonTunnel.DataStoreLifecycleProofs
