import NeoNode.Core.Interop.Context
import NeoNode.Core.Interop.Storage
import NeoNode.Core.Interop.Fee
import NeoNode.Core.Interop.Find
import NeoNode.Core.Interop.Invocation
import NeoNode.Network.Discovery
import NeoNode.Network.Discovery.Invariant
import NeoNode.Network.Discovery.Run
import NeoNode.Network.Discovery.Run.RequestCh
import NeoNode.Network.Discovery.Run.Dials
import NeoNode.Core.Native.Gas
import NeoNode.Core.Native.Gas.OnPersist
