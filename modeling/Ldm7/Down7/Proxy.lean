import Ldm7.Basic

/-! The upstream LDM-7 proxy of a session (`Up7Proxy`) and the three tasks that lock it:
the request task (`up7proxy_requestProduct`), the unicast task, which tests the
connection on every poll timeout (`up7proxy_testConnection`), and the backlog task
(`up7proxy_requestSessionBacklog`). Each call is one critical section of the proxy's
mutex; `up7proxy_lock` asserts that the client handle is still there. -/
namespace Ldm7
namespace Proxy

/-- `Up7Proxy`: whether `clnt` is non-NULL. -/
structure Up7Proxy where
  clnt : Bool
  deriving DecidableEq

def destroyClient (_ : Up7Proxy) : Up7Proxy := ⟨false⟩

inductive Caller
  | request | ucast | backlog
  deriving DecidableEq

/-- One locked call; `ok` is whether the RPC succeeds (`clnt_stat == RPC_TIMEDOUT`).
`up7proxy_requestProduct` and `up7proxy_requestSessionBacklog` destroy the client on
failure; `up7proxy_testConnection` does not. -/
def proxyCall (p : Up7Proxy) : Caller → Bool → Up7Proxy × Ldm7Status
  | .ucast, ok => (p,if ok then .ok else .rpc)
  | _, true => (p,.ok)
  | _, false => (destroyClient p,.rpc)

/-- The proxy, the tasks that may still call it, and whether an `up7proxy_lock` found
`clnt == NULL`. A task leaves after its failing call; the backlog task calls once. -/
structure Tasks where
  proxy : Up7Proxy
  live : List Caller
  assertFailed : Bool
  deriving DecidableEq

/-- A session with a backlog task: all three tasks live, the client fresh. -/
def Tasks.init : Tasks := ⟨⟨true⟩,[.request,.ucast,.backlog],false⟩

def step (t : Tasks) (c : Caller) (ok : Bool) : Tasks :=
  if c ∈ t.live then
    let r := proxyCall t.proxy c ok
    ⟨r.1,
      if r.2 ≠ .ok || c = .backlog then t.live.erase c else t.live,
      t.assertFailed || !t.proxy.clnt⟩
  else t

def run (t : Tasks) : List (Caller × Bool) → Tasks
  | [] => t
  | (c,ok) :: cs => run (step t c ok) cs

/-- The backlog request fails and destroys the client; the request task, which had
already peeked at a missed product, then locks the proxy and the assertion fails. -/
theorem up7proxyLock_on_destroyed_client :
    (run Tasks.init [(.backlog,false),(.request,true)]).assertFailed = true := by
  decide

end Proxy
end Ldm7
