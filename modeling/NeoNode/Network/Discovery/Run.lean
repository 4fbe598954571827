import NeoNode.Network.Discovery

namespace neogo.network

variable {Capabilities : Type}

namespace DefaultDiscovery

/-- The test of `run`'s pool case under `d.lock`: `addr` is neither connected
    nor attempted, so `run` marks it attempted, starts `tryAddress` for it and
    counts one request as served. -/
def startsDial (d : DefaultDiscovery Capabilities) (addr : String) : Bool :=
  !(d.connectedAddrs addr).getD false && !(d.attempted addr).getD false

theorem poolTake_eq (d : DefaultDiscovery Capabilities) (addr : String) :
    d.poolTake addr =
      if d.startsDial addr then { d with attempted := Function.update d.attempted addr (some true) }
      else d := rfl

/-- `added` of `run`'s default case: the seeds that are not connected (the
    seed loop changes no entry of `connectedAddrs`). -/
def seedsAdded (d : DefaultDiscovery Capabilities) : Nat :=
  d.seeds.countP fun addr => !(d.connectedAddrs addr).getD false

/-- `len(d.connectedAddrs) == 0`. -/
def NoConnections (d : DefaultDiscovery Capabilities) : Prop :=
  ∀ addr, d.connectedAddrs addr = none

end DefaultDiscovery

/-- Where the goroutine `run` is. -/
inductive RunPc
  /-- At the head of the outer loop, `if requested == 0 { requested, ok = <-d.requestCh }`. -/
  | outer
  /-- At the inner loop's test `ok && requested > 0`, and its select. -/
  | inner
  /-- In the select's pool case after `addr := <-d.pool`, before `d.lock.Lock()`. -/
  | take (addr : String)
  /-- After the inner loop, at `if !ok { return }` and the test for no connections. -/
  | after
  /-- `run` has returned. -/
  | exited
deriving DecidableEq, Repr

/-- The goroutine `run` with its local variables. -/
structure Runner where
  pc : RunPc
  requested : Int
  oldRequest : Int
  ok : Bool
deriving DecidableEq, Repr

/-- Where the call of `Close` is. -/
inductive ClosePc
  /-- `Close` has not taken `d.closeMtx.Lock()`. -/
  | idle
  /-- After `d.closeMtx.Unlock()`, at the select that drains `requestCh`. -/
  | drain
  /-- At `close(d.requestCh)`. -/
  | closing
  /-- `Close` has returned. -/
  | closed
deriving DecidableEq, Repr

/-- The discoverer with its goroutines: `run`, the `tryAddress` goroutines it
    starts, the `RequestRemote` calls in progress and one call of `Close`. A
    `RequestRemote` call holds `d.closeMtx` for reading from its `RLock` to its
    `RUnlock`, that is while it is `sending` or `unlocking`. -/
structure Discovery (Capabilities : Type) where
  d : DefaultDiscovery Capabilities
  isDead : Bool
  /-- `close(d.requestCh)` has run. -/
  chanClosed : Bool
  run : Runner
  closePc : ClosePc
  /-- The `tryAddress` goroutines in `Dial`, by address. -/
  dialing : List String
  /-- The `tryAddress` goroutines whose dial failed, before `RegisterBadAddr`. -/
  failed : List String
  /-- The `RequestRemote(n)` calls before `d.closeMtx.RLock()`, by `n`. -/
  waiting : List Int
  /-- The `RequestRemote(n)` calls blocked in `d.requestCh <- n`, by `n`. -/
  sending : List Int
  /-- The `RequestRemote` calls at `d.closeMtx.RUnlock()`. -/
  unlocking : Nat
  /-- Every address passed to `BackFill` so far (a history variable). -/
  backfilled : List String
  /-- The argument of every `RequestRemote` call so far (a history variable). -/
  calls : List Int

namespace Discovery

/-- `NewDefaultDiscovery` with the `run` goroutine it starts, its locals at
    their zero values. -/
def init (seeds : List String) : Discovery Capabilities :=
  ⟨NewDefaultDiscovery seeds, false, false, ⟨.outer, 0, 0, false⟩, .idle, [], [], [], [], 0, [], []⟩

/-- One atomic action of one goroutine. A section under `d.lock` is one step;
    so is `Close`'s section under `d.closeMtx`, since every read of `isDead`
    holds that lock for reading. -/
inductive Step : Discovery Capabilities → Discovery Capabilities → Prop
  | BackFill (s : Discovery Capabilities) (addrs : List String) :
      Step s { s with d := s.d.BackFill addrs, backfilled := s.backfilled ++ addrs }
  | RegisterBadAddr (s : Discovery Capabilities) (addr : String) :
      Step s { s with d := s.d.RegisterBadAddr addr }
  | RegisterGoodAddr (s : Discovery Capabilities) (addr : String) (c : Capabilities) :
      Step s { s with d := s.d.RegisterGoodAddr addr c }
  | RegisterConnectedAddr (s : Discovery Capabilities) (addr : String) :
      Step s { s with d := s.d.RegisterConnectedAddr addr }
  | UnregisterConnectedAddr (s : Discovery Capabilities) (addr : String) :
      Step s { s with d := s.d.UnregisterConnectedAddr addr }
  /-- A caller enters `RequestRemote(n)`. -/
  | RequestRemote (s : Discovery Capabilities) (n : Int) :
      Step s { s with waiting := s.waiting ++ [n], calls := s.calls ++ [n] }
  /-- `RequestRemote(n)` takes `d.closeMtx.RLock()` and finds the discoverer
      alive: it goes on to send `n`. -/
  | requestAlive (s : Discovery Capabilities) (n : Int) (hn : n ∈ s.waiting)
      (halive : s.isDead = false) :
      Step s { s with waiting := s.waiting.erase n, sending := s.sending ++ [n] }
  /-- `RequestRemote(n)` takes `d.closeMtx.RLock()` and finds the discoverer
      dead: it sends nothing. -/
  | requestDead (s : Discovery Capabilities) (n : Int) (hn : n ∈ s.waiting)
      (hdead : s.isDead = true) :
      Step s { s with waiting := s.waiting.erase n, unlocking := s.unlocking + 1 }
  /-- `d.closeMtx.RUnlock()` ends a `RequestRemote` call. -/
  | requestUnlock (s : Discovery Capabilities) (h : 0 < s.unlocking) :
      Step s { s with unlocking := s.unlocking - 1 }
  /-- `Close` gets `d.closeMtx.Lock()` once no call holds the lock for
      reading, sets `isDead` and unlocks. -/
  | Close (s : Discovery Capabilities) (hidle : s.closePc = .idle) (hsend : s.sending = [])
      (hunlock : s.unlocking = 0) :
      Step s { s with isDead := true, closePc := .drain }
  /-- `Close`'s select receives the value of a blocked `RequestRemote`. -/
  | closeDrain (s : Discovery Capabilities) (n : Int) (h : s.closePc = .drain)
      (hn : n ∈ s.sending) :
      Step s { s with
        sending := s.sending.erase n, unlocking := s.unlocking + 1, closePc := .closing }
  /-- `Close`'s select takes its default case: no `RequestRemote` is sending. -/
  | closeDrainEmpty (s : Discovery Capabilities) (h : s.closePc = .drain) (hsend : s.sending = []) :
      Step s { s with closePc := .closing }
  /-- `close(d.requestCh)`. -/
  | closeChan (s : Discovery Capabilities) (h : s.closePc = .closing) :
      Step s { s with chanClosed := true, closePc := .closed }
  /-- `run` receives `n` at the head of its outer loop. -/
  | runReceive (s : Discovery Capabilities) (n : Int) (hpc : s.run.pc = .outer)
      (hreq : s.run.requested = 0) (hn : n ∈ s.sending) :
      Step s { s with
        sending := s.sending.erase n, unlocking := s.unlocking + 1, run := ⟨.inner, n, n, true⟩ }
  /-- `run` receives from the closed channel at the head of its outer loop:
      `requested, ok = 0, false`. -/
  | runReceiveClosed (s : Discovery Capabilities) (hpc : s.run.pc = .outer)
      (hreq : s.run.requested = 0) (hclosed : s.chanClosed = true) :
      Step s { s with run := ⟨.inner, 0, 0, false⟩ }
  /-- A request is still open: `run` goes on without receiving. -/
  | runOuter (s : Discovery Capabilities) (hpc : s.run.pc = .outer) (hreq : s.run.requested ≠ 0) :
      Step s { s with run := { s.run with pc := .inner, oldRequest := s.run.requested } }
  /-- The select's request case receives `r`, and `requested` becomes the
      larger of the two. -/
  | runSelectRequest (s : Discovery Capabilities) (r : Int) (hpc : s.run.pc = .inner)
      (hok : s.run.ok = true) (hreq : 0 < s.run.requested) (hr : r ∈ s.sending) :
      Step s { s with
        sending := s.sending.erase r, unlocking := s.unlocking + 1,
        run := { s.run with requested := if s.run.requested ≤ r then r else s.run.requested } }
  /-- The select's request case receives from the closed channel: `ok` is
      false and `r = 0` leaves `requested` as it is. -/
  | runSelectClosed (s : Discovery Capabilities) (hpc : s.run.pc = .inner) (hok : s.run.ok = true)
      (hreq : 0 < s.run.requested) (hclosed : s.chanClosed = true) :
      Step s { s with run := { s.run with ok := false } }
  /-- The select's pool case receives the oldest queued address. -/
  | runSelectPool (s : Discovery Capabilities) (addr : String) (rest : List String)
      (hpc : s.run.pc = .inner) (hok : s.run.ok = true) (hreq : 0 < s.run.requested)
      (hpool : s.d.pool = addr :: rest) :
      Step s { s with d := { s.d with pool := rest }, run := { s.run with pc := .take addr } }
  /-- The pool case under `d.lock`: `poolTake`, and when it marks the address
      attempted, `go d.tryAddress(addr)` and `requested--`. -/
  | runTake (s : Discovery Capabilities) (addr : String) (hpc : s.run.pc = .take addr) :
      Step s { s with
        d := s.d.poolTake addr,
        dialing := if s.d.startsDial addr then s.dialing ++ [addr] else s.dialing,
        run := { s.run with
          pc := .inner,
          requested := if s.d.startsDial addr then s.run.requested - 1 else s.run.requested } }
  /-- The select's default case, taken when no other case is ready: the seed
      refill, and the request is dropped when every seed is connected. -/
  | runSelectDefault (s : Discovery Capabilities) (hpc : s.run.pc = .inner)
      (hok : s.run.ok = true) (hreq : 0 < s.run.requested) (hpool : s.d.pool = [])
      (hsend : s.sending = []) (hopen : s.chanClosed = false) :
      Step s { s with
        d := s.d.seedRefill,
        run := { s.run with requested := if s.d.seedsAdded = 0 then 0 else s.run.requested } }
  /-- The inner loop ends. -/
  | runInnerExit (s : Discovery Capabilities) (hpc : s.run.pc = .inner)
      (hexit : ¬(s.run.ok = true ∧ 0 < s.run.requested)) :
      Step s { s with run := { s.run with pc := .after } }
  /-- `if !ok { return }`. -/
  | runReturn (s : Discovery Capabilities) (hpc : s.run.pc = .after) (hok : s.run.ok = false) :
      Step s { s with run := { s.run with pc := .exited } }
  /-- No connections after all attempts: `run` sleeps and restores the
      request it started the round with. -/
  | runRetry (s : Discovery Capabilities) (hpc : s.run.pc = .after) (hok : s.run.ok = true)
      (hnone : s.d.NoConnections) :
      Step s { s with run := { s.run with pc := .outer, requested := s.run.oldRequest } }
  /-- Some address is connected: `run` goes back to the head of its loop. -/
  | runConnected (s : Discovery Capabilities) (hpc : s.run.pc = .after) (hok : s.run.ok = true)
      (hsome : ¬s.d.NoConnections) :
      Step s { s with run := { s.run with pc := .outer } }
  /-- A `tryAddress` goroutine's `Dial` returns (with an error when
      `dialFailed`), and it deletes `attempted[addr]` under `d.lock`. -/
  | dialDone (s : Discovery Capabilities) (addr : String) (dialFailed : Bool)
      (h : addr ∈ s.dialing) :
      Step s { s with
        d := { s.d with attempted := Function.update s.d.attempted addr none },
        dialing := s.dialing.erase addr,
        failed := if dialFailed then s.failed ++ [addr] else s.failed }
  /-- A `tryAddress` goroutine whose dial failed calls `RegisterBadAddr(addr)`
      and then `RequestRemote(1)`. -/
  | dialFailed (s : Discovery Capabilities) (addr : String) (h : addr ∈ s.failed) :
      Step s { s with
        d := s.d.RegisterBadAddr addr, failed := s.failed.erase addr,
        waiting := s.waiting ++ [1], calls := s.calls ++ [1] }

/-- The states the discoverer and its goroutines reach from
    `NewDefaultDiscovery`, under any interleaving. -/
def Reachable (s : Discovery Capabilities) : Prop :=
  ∃ seeds, Relation.ReflTransGen Step (init seeds) s

/-- A property that every step keeps holds all along a run. -/
theorem run_of_step {P : Discovery Capabilities → Prop}
    (hstep : ∀ s s', P s → Step s s' → P s') {s s' : Discovery Capabilities} (hs : P s)
    (hrun : Relation.ReflTransGen Step s s') : P s' := by
  induction hrun with
  | refl => exact hs
  | tail _ hst ih => exact hstep _ _ ih hst

/-- An inductive invariant holds of every reachable state. -/
theorem Reachable.of_step {P : Discovery Capabilities → Prop} (hinit : ∀ seeds, P (init seeds))
    (hstep : ∀ s s', P s → Step s s' → P s') {s : Discovery Capabilities} (h : Reachable s) :
    P s :=
  let ⟨seeds, hrun⟩ := h
  run_of_step hstep (hinit seeds) hrun

end Discovery

end neogo.network
