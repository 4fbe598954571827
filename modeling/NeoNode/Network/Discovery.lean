import Mathlib.Algebra.Order.BigOperators.Group.Finset
import Mathlib.Algebra.Order.Ring.Int
import Mathlib.Logic.Relation

namespace neogo.network

/-- The capacity of the pool channel. -/
def maxPoolSize : Nat := 200

/-- How many failed dials an address is given before it is marked bad. -/
def connRetries : Int := 3

/-- The discoverer's state guarded by `d.lock`: the seeds, the Go maps as
    partial functions of the address, and the addresses queued in the pool
    channel, oldest first. -/
structure DefaultDiscovery (Capabilities : Type) where
  seeds : List String
  badAddrs : String → Option Bool
  connectedAddrs : String → Option Bool
  goodAddrs : String → Option Capabilities
  unconnectedAddrs : String → Option Int
  attempted : String → Option Bool
  pool : List String

variable {Capabilities : Type}

/-- `NewDefaultDiscovery` returns a new DefaultDiscovery: empty maps and an
    empty pool. -/
def NewDefaultDiscovery (addrs : List String) : DefaultDiscovery Capabilities :=
  ⟨addrs, fun _ => none, fun _ => none, fun _ => none, fun _ => none, fun _ => none, []⟩

namespace DefaultDiscovery

/-- `pushToPoolOrDrop` queues the address, or drops it when the pool is full. -/
def pushToPoolOrDrop (d : DefaultDiscovery Capabilities) (addr : String) :
    DefaultDiscovery Capabilities :=
  if d.pool.length < maxPoolSize then { d with pool := d.pool ++ [addr] } else d

/-- One iteration of `BackFill`'s loop: an address that is not bad, not
    connected and not already waiting is given `connRetries` and queued. -/
def backFillAddr (d : DefaultDiscovery Capabilities) (addr : String) : DefaultDiscovery Capabilities :=
  if (d.badAddrs addr).getD false || (d.connectedAddrs addr).getD false ||
      decide (0 < (d.unconnectedAddrs addr).getD 0) then d
  else
    pushToPoolOrDrop { d with
      unconnectedAddrs := Function.update d.unconnectedAddrs addr (some connRetries) } addr

/-- `BackFill` backfills the pool with the given addresses. -/
def BackFill (d : DefaultDiscovery Capabilities) (addrs : List String) : DefaultDiscovery Capabilities :=
  addrs.foldl backFillAddr d

/-- `RegisterBadAddr` takes one retry from the address (from 0 when it has
    none) and queues it again while retries are left; otherwise it marks the
    address bad and forgets it as unconnected and as good. -/
def RegisterBadAddr (d : DefaultDiscovery Capabilities) (addr : String) :
    DefaultDiscovery Capabilities :=
  let d₁ := { d with
    unconnectedAddrs :=
      Function.update d.unconnectedAddrs addr (some ((d.unconnectedAddrs addr).getD 0 - 1)) }
  if 0 < (d₁.unconnectedAddrs addr).getD 0 then d₁.pushToPoolOrDrop addr
  else { d₁ with
    badAddrs := Function.update d₁.badAddrs addr (some true)
    unconnectedAddrs := Function.update d₁.unconnectedAddrs addr none
    goodAddrs := Function.update d₁.goodAddrs addr none }

/-- `RegisterGoodAddr` registers good known connected address that passed
    handshake successfully. -/
def RegisterGoodAddr (d : DefaultDiscovery Capabilities) (s : String) (c : Capabilities) :
    DefaultDiscovery Capabilities :=
  { d with
    goodAddrs := Function.update d.goodAddrs s (some c)
    badAddrs := Function.update d.badAddrs s none }

/-- `UnregisterConnectedAddr` tells discoverer that this address is no longer
    connected. -/
def UnregisterConnectedAddr (d : DefaultDiscovery Capabilities) (s : String) :
    DefaultDiscovery Capabilities :=
  { d with connectedAddrs := Function.update d.connectedAddrs s none }

/-- `RegisterConnectedAddr` tells discoverer that given address is now
    connected. -/
def RegisterConnectedAddr (d : DefaultDiscovery Capabilities) (addr : String) :
    DefaultDiscovery Capabilities :=
  { d with
    unconnectedAddrs := Function.update d.unconnectedAddrs addr none
    connectedAddrs := Function.update d.connectedAddrs addr (some true) }

/-- `tryAddress` after its dial: the address is no longer being attempted,
    and a failed dial (`dialFailed`, the dial returned an error) registers it
    as bad. -/
def tryAddress (d : DefaultDiscovery Capabilities) (addr : String) (dialFailed : Bool) :
    DefaultDiscovery Capabilities :=
  let d₁ := { d with attempted := Function.update d.attempted addr none }
  if dialFailed then d₁.RegisterBadAddr addr else d₁

/-- The pool case of `run`'s select, after it received `addr`: an address
    neither connected nor already attempted is marked attempted (and a
    `tryAddress` is started for it). -/
def poolTake (d : DefaultDiscovery Capabilities) (addr : String) : DefaultDiscovery Capabilities :=
  if !(d.connectedAddrs addr).getD false && !(d.attempted addr).getD false then
    { d with attempted := Function.update d.attempted addr (some true) }
  else d

/-- One iteration of the seed loop of `run`'s default case: a seed that is
    not connected is no longer bad, gets `connRetries` and is queued. -/
def refillSeed (d : DefaultDiscovery Capabilities) (addr : String) : DefaultDiscovery Capabilities :=
  if !(d.connectedAddrs addr).getD false then
    pushToPoolOrDrop { d with
      badAddrs := Function.update d.badAddrs addr none
      unconnectedAddrs := Function.update d.unconnectedAddrs addr (some connRetries) } addr
  else d

/-- The default case of `run`'s select, taken on an empty pool. -/
def seedRefill (d : DefaultDiscovery Capabilities) : DefaultDiscovery Capabilities :=
  d.seeds.foldl refillSeed d

/-- What one pass of `run`'s select does to the state: receive the oldest
    queued address, or refill from the seeds when the pool is empty. -/
def runSelect (d : DefaultDiscovery Capabilities) : DefaultDiscovery Capabilities :=
  match d.pool with
  | addr :: rest => poolTake { d with pool := rest } addr
  | [] => d.seedRefill

end DefaultDiscovery

/-- The operations that take `d.lock` and change the state. -/
inductive Event (Capabilities : Type)
  | BackFill (addrs : List String)
  | RegisterBadAddr (addr : String)
  | RegisterGoodAddr (s : String) (c : Capabilities)
  | RegisterConnectedAddr (addr : String)
  | UnregisterConnectedAddr (s : String)
  | tryAddress (addr : String) (dialFailed : Bool)
  | runSelect

namespace DefaultDiscovery

/-- The state after one operation. -/
def step (d : DefaultDiscovery Capabilities) : Event Capabilities → DefaultDiscovery Capabilities
  | .BackFill addrs => d.BackFill addrs
  | .RegisterBadAddr addr => d.RegisterBadAddr addr
  | .RegisterGoodAddr s c => d.RegisterGoodAddr s c
  | .RegisterConnectedAddr addr => d.RegisterConnectedAddr addr
  | .UnregisterConnectedAddr s => d.UnregisterConnectedAddr s
  | .tryAddress addr dialFailed => d.tryAddress addr dialFailed
  | .runSelect => d.runSelect

/-- The states a discoverer reaches from `NewDefaultDiscovery`, the operations
    interleaved in any order. -/
inductive Reachable : DefaultDiscovery Capabilities → Prop
  | init (seeds : List String) : Reachable (NewDefaultDiscovery seeds)
  | step {d : DefaultDiscovery Capabilities} (e : Event Capabilities) :
      Reachable d → Reachable (d.step e)

end DefaultDiscovery

end neogo.network
