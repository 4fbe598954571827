import NeoNode.Network.Discovery.Invariant
import NeoNode.Network.Discovery.Run

namespace neogo.network

variable {Capabilities : Type}

/-- What every iteration keeps holds after a `foldl` over the list. -/
theorem foldl_of_forall_mem {α β : Type} (P : α → Prop) {f : α → β → α} {l : List β} {a : α}
    (hf : ∀ a, ∀ b ∈ l, P a → P (f a b)) (ha : P a) : P (l.foldl f a) := by
  induction l generalizing a with
  | nil => exact ha
  | cons b l ih =>
    exact ih (fun a' b' hb' => hf a' b' (List.mem_cons_of_mem b hb'))
      (hf a b (List.mem_cons_self b l) ha)

namespace DefaultDiscovery

/-- The discoverer holds `a`: it is queued in the pool or waits in
    `unconnectedAddrs`. -/
def Holds (d : DefaultDiscovery Capabilities) (a : String) : Prop :=
  a ∈ d.pool ∨ d.unconnectedAddrs a ≠ none

section Fields

variable (d : DefaultDiscovery Capabilities) (x : String)

@[simp]
theorem attempted_pushToPoolOrDrop : (d.pushToPoolOrDrop x).attempted = d.attempted := by
  unfold pushToPoolOrDrop; split_ifs <;> rfl

@[simp]
theorem seeds_pushToPoolOrDrop : (d.pushToPoolOrDrop x).seeds = d.seeds := by
  unfold pushToPoolOrDrop; split_ifs <;> rfl

@[simp]
theorem attempted_backFillAddr : (d.backFillAddr x).attempted = d.attempted := by
  unfold backFillAddr; split_ifs <;> simp

@[simp]
theorem seeds_backFillAddr : (d.backFillAddr x).seeds = d.seeds := by
  unfold backFillAddr; split_ifs <;> simp

@[simp]
theorem attempted_refillSeed : (d.refillSeed x).attempted = d.attempted := by
  unfold refillSeed; split_ifs <;> simp

@[simp]
theorem seeds_refillSeed : (d.refillSeed x).seeds = d.seeds := by
  unfold refillSeed; split_ifs <;> simp

@[simp]
theorem attempted_RegisterBadAddr : (d.RegisterBadAddr x).attempted = d.attempted := by
  dsimp only [RegisterBadAddr]; split_ifs <;> simp

@[simp]
theorem seeds_RegisterBadAddr : (d.RegisterBadAddr x).seeds = d.seeds := by
  dsimp only [RegisterBadAddr]; split_ifs <;> simp

@[simp]
theorem seeds_poolTake : (d.poolTake x).seeds = d.seeds := by
  rw [poolTake_eq]; split_ifs <;> rfl

@[simp]
theorem attempted_BackFill (addrs : List String) : (d.BackFill addrs).attempted = d.attempted := by
  unfold BackFill
  exact foldl_of_forall_mem (fun (e : DefaultDiscovery Capabilities) => e.attempted = d.attempted)
    (fun e _ _ he => (attempted_backFillAddr e _).trans he) rfl

@[simp]
theorem seeds_BackFill (addrs : List String) : (d.BackFill addrs).seeds = d.seeds := by
  unfold BackFill
  exact foldl_of_forall_mem (fun (e : DefaultDiscovery Capabilities) => e.seeds = d.seeds)
    (fun e _ _ he => (seeds_backFillAddr e _).trans he) rfl

@[simp]
theorem attempted_seedRefill : d.seedRefill.attempted = d.attempted := by
  unfold seedRefill
  exact foldl_of_forall_mem (fun (e : DefaultDiscovery Capabilities) => e.attempted = d.attempted)
    (fun e _ _ he => (attempted_refillSeed e _).trans he) rfl

@[simp]
theorem seeds_seedRefill : d.seedRefill.seeds = d.seeds := by
  unfold seedRefill
  exact foldl_of_forall_mem (fun (e : DefaultDiscovery Capabilities) => e.seeds = d.seeds)
    (fun e _ _ he => (seeds_refillSeed e _).trans he) rfl

end Fields

section Holds

variable {d e : DefaultDiscovery Capabilities} {x a : String}

theorem holds_pushToPoolOrDrop (h : (d.pushToPoolOrDrop x).Holds a) : d.Holds a ∨ a = x := by
  unfold pushToPoolOrDrop at h
  split_ifs at h
  · rcases h with h | h
    · rcases List.mem_append.1 h with h | h
      exacts [.inl (.inl h), .inr (List.mem_singleton.1 h)]
    · exact .inl (.inr h)
  · exact .inl h

/-- A state with `d`'s pool whose `unconnectedAddrs` differs from `d`'s only
    at `x` holds what `d` holds, and perhaps `x`. -/
theorem holds_of_update {v : Option Int} (h : e.Holds a) (hpool : e.pool = d.pool)
    (hun : e.unconnectedAddrs = Function.update d.unconnectedAddrs x v) : d.Holds a ∨ a = x := by
  by_cases hax : a = x
  · exact .inr hax
  · refine .inl (Or.imp (fun hp => hpool ▸ hp) (fun hu => ?_) h)
    rwa [hun, Function.update_noteq hax] at hu

/-- The same when the entry of `x` is deleted: nothing new is held. -/
theorem holds_of_update_none (h : e.Holds a) (hpool : e.pool = d.pool)
    (hun : e.unconnectedAddrs = Function.update d.unconnectedAddrs x none) : d.Holds a := by
  rcases h with hp | hu
  · exact .inl (hpool ▸ hp)
  · refine .inr fun hnone => hu ?_
    rw [hun]
    by_cases hax : a = x
    · rw [hax, Function.update_same]
    · rw [Function.update_noteq hax, hnone]

theorem holds_backFillAddr (h : (d.backFillAddr x).Holds a) : d.Holds a ∨ a = x := by
  unfold backFillAddr at h
  split_ifs at h
  · exact .inl h
  · rcases holds_pushToPoolOrDrop h with h | rfl
    exacts [holds_of_update h rfl rfl, .inr rfl]

theorem holds_refillSeed (h : (d.refillSeed x).Holds a) : d.Holds a ∨ a = x := by
  unfold refillSeed at h
  split_ifs at h
  · rcases holds_pushToPoolOrDrop h with h | rfl
    exacts [holds_of_update h rfl rfl, .inr rfl]
  · exact .inl h

/-- `RegisterBadAddr` queues its address again only while it has retries
    left, so only when it was waiting: it holds nothing new. -/
theorem holds_RegisterBadAddr (h : (d.RegisterBadAddr x).Holds a) : d.Holds a := by
  dsimp only [RegisterBadAddr] at h
  split_ifs at h with hpos
  · simp only [Function.update_same, Option.getD_some] at hpos
    have hx : d.Holds x := .inr fun hnone => by simp [hnone] at hpos
    rcases holds_pushToPoolOrDrop h with h | rfl
    · rcases (holds_of_update h rfl rfl : d.Holds a ∨ a = x) with h | rfl
      exacts [h, hx]
    · exact hx
  · exact holds_of_update_none h rfl (Function.update_idem _ _ _)

theorem holds_RegisterConnectedAddr (h : (d.RegisterConnectedAddr x).Holds a) : d.Holds a :=
  holds_of_update_none h rfl rfl

theorem holds_poolTake : (d.poolTake x).Holds a ↔ d.Holds a := by
  rw [poolTake_eq]; split_ifs <;> rfl

theorem holds_BackFill {addrs : List String} (h : (d.BackFill addrs).Holds a) :
    d.Holds a ∨ a ∈ addrs := by
  unfold BackFill at h
  exact foldl_of_forall_mem
    (fun (e : DefaultDiscovery Capabilities) => ∀ a, e.Holds a → d.Holds a ∨ a ∈ addrs)
    (fun _ _ hb he a ha => (holds_backFillAddr ha).elim (he a) fun hab => .inr (hab ▸ hb))
    (fun _ ha => .inl ha) a h

theorem holds_seedRefill (h : d.seedRefill.Holds a) : d.Holds a ∨ a ∈ d.seeds := by
  unfold seedRefill at h
  exact foldl_of_forall_mem
    (fun (e : DefaultDiscovery Capabilities) => ∀ a, e.Holds a → d.Holds a ∨ a ∈ d.seeds)
    (fun _ _ hb he a ha => (holds_refillSeed ha).elim (he a) fun hab => .inr (hab ▸ hb))
    (fun _ ha => .inl ha) a h

end Holds

theorem Inv.poolTake {d : DefaultDiscovery Capabilities} (h : d.Inv) (x : String) :
    (d.poolTake x).Inv := by
  rw [poolTake_eq]
  split_ifs
  exacts [h.attempted _, h]

end DefaultDiscovery

namespace Discovery

open DefaultDiscovery

variable {s s' : Discovery Capabilities}

/-- Every step keeps the seeds. -/
theorem Step.seeds_eq (hstep : Step s s') : s'.d.seeds = s.d.seeds := by
  cases hstep <;>
    simp [DefaultDiscovery.RegisterGoodAddr, DefaultDiscovery.RegisterConnectedAddr,
      DefaultDiscovery.UnregisterConnectedAddr]

theorem Step.backfilled_prefix (hstep : Step s s') : s.backfilled <+: s'.backfilled := by
  cases hstep
  case BackFill addrs => exact List.prefix_append _ _
  all_goals exact List.prefix_refl _

/-- The discoverer keeps the `tryAddress` goroutines apart: each address is
    dialed by at most one, and `attempted` marks exactly the addresses being
    dialed. -/
structure DialInv (s : Discovery Capabilities) : Prop where
  nodup : s.dialing.Nodup
  attempted_iff : ∀ a, s.d.attempted a = some true ↔ a ∈ s.dialing
  attempted_ne_false : ∀ a, s.d.attempted a ≠ some false

theorem dialInv_init (seeds : List String) : (init seeds : Discovery Capabilities).DialInv :=
  ⟨List.nodup_nil, fun _ => by simp [init, NewDefaultDiscovery], fun _ => Option.noConfusion⟩

theorem DialInv.of_eq (h : s.DialInv) (hatt : s'.d.attempted = s.d.attempted)
    (hdial : s'.dialing = s.dialing) : s'.DialInv := by
  refine ⟨?_, fun a => ?_, fun a => ?_⟩
  · rw [hdial]; exact h.nodup
  · rw [hatt, hdial]; exact h.attempted_iff a
  · rw [hatt]; exact h.attempted_ne_false a

theorem DialInv.step (h : s.DialInv) (hstep : Step s s') : s'.DialInv := by
  -- an update of `attempted` to a value other than `some false` keeps it free of `false`
  have hne : ∀ x v, v ≠ some false → ∀ a, Function.update s.d.attempted x v a ≠ some false :=
    fun _ _ hv => (Function.forall_update_iff _ fun _ v => v ≠ some false).2
      ⟨hv, fun a _ => h.attempted_ne_false a⟩
  cases hstep
  case runTake addr _ =>
    rw [poolTake_eq]
    by_cases hdial : s.d.startsDial addr
    · -- a fresh dial: `addr` was not attempted, so no goroutine dials it yet
      have hfree : addr ∉ s.dialing := fun hmem => by
        simp [startsDial, (h.attempted_iff addr).2 hmem] at hdial
      simp only [hdial, if_true]
      exact ⟨h.nodup.append (List.nodup_singleton _) (by simpa using hfree),
        (Function.forall_update_iff _ fun a v => v = some true ↔ a ∈ s.dialing ++ [addr]).2
          ⟨by simp, fun a hax => by simp [h.attempted_iff a, hax]⟩,
        hne addr _ (by simp)⟩
    · simp only [hdial]
      exact h.of_eq rfl rfl
  case dialDone addr _ _ =>
    exact ⟨h.nodup.erase addr,
      (Function.forall_update_iff _ fun a v => v = some true ↔ a ∈ s.dialing.erase addr).2
        ⟨by simp [h.nodup.not_mem_erase], fun a hax => by
          simp [h.attempted_iff a, List.mem_erase_of_ne hax]⟩,
      hne addr none Option.noConfusion⟩
  all_goals
    exact h.of_eq (by simp [RegisterGoodAddr, RegisterConnectedAddr, UnregisterConnectedAddr]) rfl

/-- Every reachable state of the discoverer with its goroutines: no address is
    being dialed by two `tryAddress` goroutines at once, and `attempted` holds
    exactly the addresses being dialed. -/
theorem Reachable.dialing_unique (h : s.Reachable) :
    s.dialing.Nodup ∧ ∀ a, s.d.attempted a = some true ↔ a ∈ s.dialing :=
  have hinv := h.of_step dialInv_init fun _ _ hi hst => hi.step hst
  ⟨hinv.nodup, hinv.attempted_iff⟩

/-- The discoverer of seed `"seed"` after `BackFill("peer")`, with `run`
    having received `RequestRemote(1)`, taken `"peer"` from the pool and
    started its dial. -/
def peerDialing : Discovery Unit :=
  ⟨⟨["seed"], fun _ => none, fun _ => none, fun _ => none,
    Function.update (fun _ => none) "peer" (some 3), Function.update (fun _ => none) "peer" (some true),
    []⟩, false, false, ⟨.inner, 0, 1, true⟩, .idle, ["peer"], [], [], [], 1, ["peer"], [1]⟩

theorem reachable_peerDialing : peerDialing.Reachable :=
  ⟨["seed"], .tail (.tail (.tail (.tail (.tail (.single (.BackFill _ ["peer"]))
    (.RequestRemote _ 1)) (.requestAlive _ 1 (List.mem_singleton_self _) rfl))
    (.runReceive _ 1 rfl rfl (List.mem_singleton_self _)))
    (.runSelectPool _ "peer" [] rfl rfl (by decide) rfl)) (.runTake _ "peer" rfl)⟩

theorem Reachable.dialing_unique_peer :
    peerDialing.dialing.Nodup ∧ ∀ a, peerDialing.d.attempted a = some true ↔ a ∈ peerDialing.dialing :=
  Reachable.dialing_unique reachable_peerDialing

/-- The discoverer knows of `a`: it holds it, `run` took it from the pool, or
    a `tryAddress` goroutine dials it or is registering its failed dial. -/
def Tracks (s : Discovery Capabilities) (a : String) : Prop :=
  s.d.Holds a ∨ s.run.pc = .take a ∨ a ∈ s.dialing ∨ a ∈ s.failed

/-- What a step can add to the addresses the discoverer knows of: a seed or
    an address passed to `BackFill`. -/
theorem Step.tracks (hstep : Step s s') {a : String} (h : s'.Tracks a) :
    s.Tracks a ∨ a ∈ s.d.seeds ∨ a ∈ s'.backfilled := by
  cases hstep with
  | BackFill addrs =>
    rcases h with h | h
    · rcases holds_BackFill h with h | h
      exacts [.inl (.inl h), .inr (.inr (List.mem_append_right _ h))]
    · exact .inl (.inr h)
  | RegisterBadAddr addr => exact .inl (h.imp_left holds_RegisterBadAddr)
  | RegisterConnectedAddr addr => exact .inl (h.imp_left holds_RegisterConnectedAddr)
  | RegisterGoodAddr | UnregisterConnectedAddr | RequestRemote | requestAlive | requestDead
  | requestUnlock | Close | closeDrain | closeDrainEmpty | closeChan | runSelectRequest
  | runSelectClosed =>
    exact .inl h
  | runReceive | runReceiveClosed | runOuter | runInnerExit | runReturn | runRetry
  | runConnected =>
    exact .inl (h.imp_right (Or.imp_left nofun))
  | runSelectPool addr rest _ _ _ hpool =>
    rcases h with (hp | hu) | h | h
    · exact .inl (.inl (.inl (hpool ▸ List.mem_cons_of_mem addr hp)))
    · exact .inl (.inl (.inr hu))
    · cases h
      exact .inl (.inl (.inl (hpool ▸ List.mem_cons_self _ _)))
    · exact .inl (.inr (.inr h))
  | runTake addr hpc =>
    rcases h with h | h | h | h
    · exact .inl (.inl (holds_poolTake.1 h))
    · cases h
    · dsimp only at h
      split_ifs at h
      · rcases List.mem_append.1 h with h | h
        · exact .inl (.inr (.inr (.inl h)))
        · exact .inl (.inr (.inl (List.mem_singleton.1 h ▸ hpc)))
      · exact .inl (.inr (.inr (.inl h)))
    · exact .inl (.inr (.inr (.inr h)))
  | runSelectDefault =>
    rcases h with h | h
    · rcases holds_seedRefill h with h | h
      exacts [.inl (.inl h), .inr (.inl h)]
    · exact .inl (.inr h)
  | dialDone addr dialFailed hmem =>
    rcases h with h | h | h | h
    · exact .inl (.inl h)
    · exact .inl (.inr (.inl h))
    · exact .inl (.inr (.inr (.inl (List.mem_of_mem_erase h))))
    · dsimp only at h
      split_ifs at h
      · rcases List.mem_append.1 h with h | h
        · exact .inl (.inr (.inr (.inr h)))
        · exact .inl (.inr (.inr (.inl (List.mem_singleton.1 h ▸ hmem))))
      · exact .inl (.inr (.inr (.inr h)))
  | dialFailed addr hmem =>
    rcases h with h | h | h | h
    · exact .inl (.inl (holds_RegisterBadAddr h))
    · exact .inl (.inr (.inl h))
    · exact .inl (.inr (.inr (.inl h)))
    · exact .inl (.inr (.inr (.inr (List.mem_of_mem_erase h))))

/-- Every address the discoverer knows of is a seed or was passed to
    `BackFill`. -/
def Sourced (s : Discovery Capabilities) : Prop :=
  ∀ a, s.Tracks a → a ∈ s.d.seeds ∨ a ∈ s.backfilled

theorem sourced_init (seeds : List String) : (init seeds : Discovery Capabilities).Sourced :=
  fun _ ha => by simp [Tracks, Holds, init, NewDefaultDiscovery] at ha

theorem Sourced.step (h : s.Sourced) (hstep : Step s s') : s'.Sourced := fun a ha => by
  rw [hstep.seeds_eq]
  rcases hstep.tracks ha with ht | hs | hb
  exacts [(h a ht).imp_right fun hb => hstep.backfilled_prefix.subset hb, .inl hs, .inr hb]

/-- In every reachable state, each address the discoverer queues, keeps
    waiting, takes from the pool or dials is one of the seeds or was passed to
    `BackFill`: the discoverer dials no other address. -/
theorem Reachable.tracked_sourced (h : s.Reachable) (a : String) (ha : s.Tracks a) :
    a ∈ s.d.seeds ∨ a ∈ s.backfilled :=
  h.of_step sourced_init (fun _ _ hi hst => hi.step hst) a ha

theorem Reachable.tracked_sourced_peer :
    "peer" ∈ peerDialing.d.seeds ∨ "peer" ∈ peerDialing.backfilled :=
  Reachable.tracked_sourced reachable_peerDialing "peer"
    (.inr (.inr (.inl (List.mem_singleton_self _))))

/-- Every step keeps the invariant of the discoverer's maps and pool. -/
theorem Step.inv (hstep : Step s s') (h : s.d.Inv) : s'.d.Inv := by
  cases hstep
  case BackFill addrs => exact h.BackFill addrs
  case RegisterBadAddr addr => exact h.RegisterBadAddr addr
  case RegisterGoodAddr addr c => exact h.RegisterGoodAddr addr c
  case RegisterConnectedAddr addr => exact h.RegisterConnectedAddr addr
  case UnregisterConnectedAddr addr => exact h.UnregisterConnectedAddr addr
  case runSelectPool addr rest _ _ _ hpool =>
    exact ⟨h.consistent, Nat.le_of_succ_le (by simpa [hpool] using h.pool_le)⟩
  case runTake addr _ => exact h.poolTake addr
  case runSelectDefault => exact h.seedRefill
  case dialDone => exact h.attempted _
  case dialFailed addr _ => exact h.RegisterBadAddr addr
  all_goals exact h

/-- The discoverer's maps stay consistent, and its pool within
    `maxPoolSize`, also when `run`'s pool receive is apart from its section
    under `d.lock` and the goroutines interleave in any order. -/
theorem Reachable.maps_consistent (h : s.Reachable) : s.d.Inv :=
  h.of_step (fun _ => inv_NewDefaultDiscovery _) fun _ _ hi hst => hst.inv hi

theorem Reachable.maps_consistent_peer : peerDialing.d.Inv :=
  Reachable.maps_consistent reachable_peerDialing

end Discovery

end neogo.network
