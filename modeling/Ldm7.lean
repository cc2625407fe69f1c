import Ldm7.Basic
import Ldm7.Down7.Memory
import Ldm7.Down7.Pipeline
import Ldm7.Down7.Session
import Ldm7.Down7.Lifecycle
import Ldm7.Down7.Manager
import Ldm7.Down7.Setup
import Ldm7.Down7.Proxy
import Ldm7.Rpc.Callout
import Ldm7.Rpc.Dispatch
import Ldm7.Rpc.Xprt
import Ldm7.Rpc.SvcFds
import Ldm7.Protocol.LdmProxy
import Ldm7.Protocol.Feedme
import Ldm7.Protocol.Sender
import Ldm7.Protocol.Remote
import Ldm7.Protocol.Requester
import Ldm7.Protocol.Notifyme
import Ldm7.Queue.Expire
import Ldm7.Misc.Future
import Ldm7.Log.Facility
import Ldm7.Gempak.Tables
