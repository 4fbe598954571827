import NeoNode.Network.Discovery

namespace neogo.network

variable {Capabilities : Type}

/-- The entries the four address maps hold for one address. -/
structure AddrEntries (Capabilities : Type) where
  bad : Option Bool
  connected : Option Bool
  good : Option Capabilities
  unconnected : Option Int

namespace AddrEntries

/-- The entries `BackFill` leaves for an address it is given. -/
def backFill (s : AddrEntries Capabilities) : AddrEntries Capabilities :=
  if s.bad.getD false || s.connected.getD false || decide (0 < s.unconnected.getD 0) then s
  else { s with unconnected := some connRetries }

/-- `BackFill`'s test for skipping an address: it is bad, connected or
    already waiting with retries left. -/
def skips (s : AddrEntries Capabilities) : Bool :=
  s.bad.getD false || s.connected.getD false || decide (0 < s.unconnected.getD 0)

/-- An address `BackFill` has been given is skipped by the next one. -/
theorem skips_backFill (s : AddrEntries Capabilities) : s.backFill.skips = true := by
  unfold backFill
  split_ifs with h
  · exact h
  · simp [skips, connRetries]

/-- The entries `RegisterBadAddr` leaves for its address. -/
def registerBad (s : AddrEntries Capabilities) : AddrEntries Capabilities :=
  if 0 < s.unconnected.getD 0 - 1 then { s with unconnected := some (s.unconnected.getD 0 - 1) }
  else ⟨some true, s.connected, none, none⟩

/-- The entries a seed refill leaves for a seed. -/
def refillSeed (s : AddrEntries Capabilities) : AddrEntries Capabilities :=
  if !s.connected.getD false then { s with bad := none, unconnected := some connRetries } else s

/-- Consistent entries: a waiting address has between 1 and `connRetries`
    retries and is neither connected nor bad, a bad address is not good, and
    the boolean maps hold only `true`. -/
structure Consistent (s : AddrEntries Capabilities) : Prop where
  unconnected : ∀ n, s.unconnected = some n →
    1 ≤ n ∧ n ≤ connRetries ∧ s.connected = none ∧ s.bad = none
  bad_good : s.bad ≠ none → s.good = none
  bad_true : s.bad ≠ some false
  connected_true : s.connected ≠ some false

/-- A boolean map entry that reads as `false` and never holds `false` is
    absent. -/
theorem eq_none_of_getD_false {o : Option Bool} (h : o.getD false = false) (ht : o ≠ some false) :
    o = none := by
  cases o with
  | none => rfl
  | some b => cases b <;> simp_all

section Steps

variable {s : AddrEntries Capabilities}

theorem Consistent.backFill (h : s.Consistent) : s.backFill.Consistent := by
  unfold AddrEntries.backFill
  split_ifs with hskip
  · exact h
  · simp only [Bool.or_eq_true, decide_eq_true_eq, not_or, Bool.not_eq_true] at hskip
    refine ⟨?_, h.bad_good, h.bad_true, h.connected_true⟩
    rintro n ⟨⟩
    exact ⟨by decide, le_refl _, eq_none_of_getD_false hskip.1.2 h.connected_true,
      eq_none_of_getD_false hskip.1.1 h.bad_true⟩

theorem Consistent.registerBad (h : s.Consistent) : s.registerBad.Consistent := by
  unfold AddrEntries.registerBad
  split_ifs with hleft
  · obtain ⟨n, hn⟩ : ∃ n, s.unconnected = some n := by
      cases hs : s.unconnected with
      | none => simp [hs] at hleft
      | some n => exact ⟨n, rfl⟩
    obtain ⟨h₁, h₃, hconn, hbad⟩ := h.unconnected n hn
    rw [hn, Option.getD_some] at hleft ⊢
    refine ⟨?_, h.bad_good, h.bad_true, h.connected_true⟩
    rintro m ⟨⟩
    exact ⟨by omega, by omega, hconn, hbad⟩
  · exact ⟨nofun, fun _ => rfl, nofun, h.connected_true⟩

theorem Consistent.refillSeed (h : s.Consistent) : s.refillSeed.Consistent := by
  unfold AddrEntries.refillSeed
  split_ifs with hconn
  · simp only [Bool.not_eq_true'] at hconn
    refine ⟨?_, nofun, nofun, h.connected_true⟩
    rintro n ⟨⟩
    exact ⟨by decide, le_refl _, eq_none_of_getD_false hconn h.connected_true, rfl⟩
  · exact h

theorem Consistent.registerGood (h : s.Consistent) (c : Capabilities) :
    ({ s with good := some c, bad := none } : AddrEntries Capabilities).Consistent :=
  ⟨fun n hn => ⟨(h.unconnected n hn).1, (h.unconnected n hn).2.1, (h.unconnected n hn).2.2.1, rfl⟩,
    nofun, nofun, h.connected_true⟩

theorem Consistent.registerConnected (h : s.Consistent) :
    ({ s with unconnected := none, connected := some true } : AddrEntries Capabilities).Consistent :=
  ⟨nofun, h.bad_good, h.bad_true, nofun⟩

theorem Consistent.unregisterConnected (h : s.Consistent) :
    ({ s with connected := none } : AddrEntries Capabilities).Consistent :=
  ⟨fun n hn => ⟨(h.unconnected n hn).1, (h.unconnected n hn).2.1, rfl, (h.unconnected n hn).2.2.2⟩,
    h.bad_good, h.bad_true, nofun⟩

end Steps

end AddrEntries

namespace DefaultDiscovery

/-- What the state records about one address. -/
def entries (d : DefaultDiscovery Capabilities) (a : String) : AddrEntries Capabilities :=
  ⟨d.badAddrs a, d.connectedAddrs a, d.goodAddrs a, d.unconnectedAddrs a⟩

/-- The discoverer's invariant: every address's entries are consistent and
    the pool holds at most `maxPoolSize` addresses. -/
structure Inv (d : DefaultDiscovery Capabilities) : Prop where
  consistent : ∀ a, (d.entries a).Consistent
  pool_le : d.pool.length ≤ maxPoolSize

section Entries

variable (d : DefaultDiscovery Capabilities) (x a : String)

@[simp]
theorem badAddrs_pushToPoolOrDrop : (d.pushToPoolOrDrop x).badAddrs = d.badAddrs := by
  unfold pushToPoolOrDrop; split_ifs <;> rfl

@[simp]
theorem connectedAddrs_pushToPoolOrDrop : (d.pushToPoolOrDrop x).connectedAddrs = d.connectedAddrs := by
  unfold pushToPoolOrDrop; split_ifs <;> rfl

@[simp]
theorem goodAddrs_pushToPoolOrDrop : (d.pushToPoolOrDrop x).goodAddrs = d.goodAddrs := by
  unfold pushToPoolOrDrop; split_ifs <;> rfl

@[simp]
theorem unconnectedAddrs_pushToPoolOrDrop :
    (d.pushToPoolOrDrop x).unconnectedAddrs = d.unconnectedAddrs := by
  unfold pushToPoolOrDrop; split_ifs <;> rfl

theorem pool_pushToPoolOrDrop_le {d : DefaultDiscovery Capabilities}
    (h : d.pool.length ≤ maxPoolSize) :
    (d.pushToPoolOrDrop x).pool.length ≤ maxPoolSize := by
  unfold pushToPoolOrDrop
  split_ifs with hlt
  · simpa using hlt
  · exact h

theorem entries_backFillAddr :
    (d.backFillAddr x).entries a = if a = x then (d.entries a).backFill else d.entries a := by
  by_cases ha : a = x
  · subst ha
    simp only [backFillAddr, AddrEntries.backFill, entries, if_true]
    split_ifs <;> simp
  · simp only [backFillAddr, if_neg ha]
    split_ifs <;> simp [entries, Function.update_noteq ha]

theorem entries_RegisterBadAddr :
    (d.RegisterBadAddr x).entries a = if a = x then (d.entries a).registerBad else d.entries a := by
  by_cases ha : a = x
  · subst ha
    simp only [RegisterBadAddr, AddrEntries.registerBad, entries, if_true, Function.update_same,
      Option.getD_some]
    split_ifs <;> simp
  · simp only [RegisterBadAddr, if_neg ha]
    split_ifs <;> simp [entries, Function.update_noteq ha]

theorem entries_refillSeed :
    (d.refillSeed x).entries a = if a = x then (d.entries a).refillSeed else d.entries a := by
  by_cases ha : a = x
  · subst ha
    simp only [refillSeed, AddrEntries.refillSeed, entries, if_true]
    split_ifs <;> simp
  · simp only [refillSeed, if_neg ha]
    split_ifs <;> simp [entries, Function.update_noteq ha]

/-- `RegisterBadAddr` applied `k` times in a row to an address waiting with
    `n ≥ 1` retries: the address keeps waiting with `n - k` retries while
    `k < n`, and from the `n`-th failure on it is bad and neither waiting nor
    good. -/
theorem entries_RegisterBadAddr_iterate {n : Int} (hn : d.unconnectedAddrs a = some n) (h1 : 1 ≤ n)
    (k : Nat) :
    ((fun d => d.RegisterBadAddr a)^[k] d).entries a =
      if (k : Int) < n then { d.entries a with unconnected := some (n - k) }
      else ⟨some true, d.connectedAddrs a, none, none⟩ := by
  induction k with
  | zero => simp [entries, hn, if_pos (show (0 : Int) < n by omega)]
  | succ k ih =>
    rw [Function.iterate_succ_apply', entries_RegisterBadAddr, if_pos rfl, ih]
    by_cases hk : (k : Int) < n
    · rw [if_pos hk]
      simp only [AddrEntries.registerBad, Option.getD_some, Nat.cast_succ]
      split_ifs <;> first | rfl | omega | (congr 2; omega)
    · rw [if_neg hk, if_neg (by push_cast; omega)]
      simp [AddrEntries.registerBad]

theorem entries_RegisterBadAddr_iterate_backFill :
    ((fun d => d.RegisterBadAddr "peer")^[2]
        ((NewDefaultDiscovery [] : DefaultDiscovery Unit).BackFill ["peer"])).entries "peer" =
      if ((2 : Nat) : Int) < 3 then
        { ((NewDefaultDiscovery [] : DefaultDiscovery Unit).BackFill ["peer"]).entries "peer" with
          unconnected := some (3 - (2 : Nat)) }
      else
        ⟨some true,
          ((NewDefaultDiscovery [] : DefaultDiscovery Unit).BackFill ["peer"]).connectedAddrs "peer",
          none, none⟩ :=
  entries_RegisterBadAddr_iterate ((NewDefaultDiscovery [] : DefaultDiscovery Unit).BackFill ["peer"])
    "peer" rfl (by decide) 2

end Entries

section Idempotence

variable {d : DefaultDiscovery Capabilities} {x a : String}

theorem backFillAddr_of_skips (h : (d.entries x).skips = true) : d.backFillAddr x = d := by
  unfold backFillAddr
  exact if_pos h

theorem skips_backFillAddr (h : a = x ∨ (d.entries a).skips = true) :
    ((d.backFillAddr x).entries a).skips = true := by
  rw [entries_backFillAddr]
  split_ifs with hax
  · exact AddrEntries.skips_backFill _
  · exact h.resolve_left hax

theorem skips_BackFill_of_skips {addrs : List String} (h : (d.entries a).skips = true) :
    ((d.BackFill addrs).entries a).skips = true := by
  induction addrs generalizing d with
  | nil => exact h
  | cons x xs ih => exact ih (skips_backFillAddr (.inr h))

/-- After `BackFill` every address it was given is skipped by the next one. -/
theorem skips_BackFill {addrs : List String} (ha : a ∈ addrs) :
    ((d.BackFill addrs).entries a).skips = true := by
  induction addrs generalizing d with
  | nil => cases ha
  | cons x xs ih =>
    show (((d.backFillAddr x).BackFill xs).entries a).skips = true
    rcases List.mem_cons.1 ha with rfl | ha
    · exact skips_BackFill_of_skips (skips_backFillAddr (.inl rfl))
    · exact ih ha

theorem BackFill_of_skips {addrs : List String} (h : ∀ a ∈ addrs, (d.entries a).skips = true) :
    d.BackFill addrs = d := by
  induction addrs with
  | nil => rfl
  | cons x xs ih =>
    show (d.backFillAddr x).BackFill xs = d
    rw [backFillAddr_of_skips (h x (List.mem_cons_self x xs))]
    exact ih fun a ha => h a (List.mem_cons_of_mem x ha)

end Idempotence

/-- `BackFill` is idempotent: given the same addresses again it changes
    nothing, neither the maps nor the pool, since each of them is now bad,
    connected or waiting. -/
theorem BackFill_BackFill (d : DefaultDiscovery Capabilities) (addrs : List String) :
    (d.BackFill addrs).BackFill addrs = d.BackFill addrs :=
  BackFill_of_skips fun _ => skips_BackFill

theorem BackFill_BackFill_repeated :
    ((NewDefaultDiscovery ["seed"] : DefaultDiscovery Unit).BackFill ["peer", "peer"]).BackFill
        ["peer", "peer"] =
      (NewDefaultDiscovery ["seed"] : DefaultDiscovery Unit).BackFill ["peer", "peer"] :=
  BackFill_BackFill _ _

/-- An operation that changes the entries of one address `x` by a map that
    keeps them consistent keeps every address consistent. -/
theorem consistent_of_entries {d d' : DefaultDiscovery Capabilities} {x : String}
    {f : AddrEntries Capabilities → AddrEntries Capabilities}
    (hd : ∀ a, (d.entries a).Consistent) (hf : ∀ s, s.Consistent → (f s).Consistent)
    (h : ∀ a, d'.entries a = if a = x then f (d.entries a) else d.entries a) :
    ∀ a, (d'.entries a).Consistent := by
  intro a
  rw [h]
  split_ifs
  exacts [hf _ (hd a), hd a]

/-- The same for an update at `x` that leaves the entries of every other
    address as they were. -/
theorem consistent_of_update {d d' : DefaultDiscovery Capabilities} (x : String)
    (hd : ∀ a, (d.entries a).Consistent) (hx : (d'.entries x).Consistent)
    (h : ∀ a, a ≠ x → d'.entries a = d.entries a) :
    ∀ a, (d'.entries a).Consistent := by
  intro a
  by_cases ha : a = x
  · exact ha ▸ hx
  · exact h a ha ▸ hd a

section Steps

variable {d : DefaultDiscovery Capabilities}

theorem Inv.backFillAddr (h : d.Inv) (x : String) : (d.backFillAddr x).Inv := by
  refine ⟨consistent_of_entries h.consistent (fun _ => AddrEntries.Consistent.backFill)
    (entries_backFillAddr d x), ?_⟩
  unfold DefaultDiscovery.backFillAddr
  split_ifs
  exacts [h.pool_le, pool_pushToPoolOrDrop_le x h.pool_le]

theorem Inv.BackFill (h : d.Inv) (addrs : List String) : (d.BackFill addrs).Inv := by
  induction addrs generalizing d with
  | nil => exact h
  | cons x xs ih => exact ih (h.backFillAddr x)

theorem Inv.RegisterBadAddr (h : d.Inv) (x : String) : (d.RegisterBadAddr x).Inv := by
  refine ⟨consistent_of_entries h.consistent (fun _ => AddrEntries.Consistent.registerBad)
    (entries_RegisterBadAddr d x), ?_⟩
  dsimp only [DefaultDiscovery.RegisterBadAddr]
  split_ifs
  exacts [pool_pushToPoolOrDrop_le x h.pool_le, h.pool_le]

theorem Inv.RegisterGoodAddr (h : d.Inv) (x : String) (c : Capabilities) :
    (d.RegisterGoodAddr x c).Inv := by
  refine ⟨consistent_of_update x h.consistent ?_ fun a ha => ?_, h.pool_le⟩
  · simpa [entries, DefaultDiscovery.RegisterGoodAddr] using (h.consistent x).registerGood c
  · simp [entries, DefaultDiscovery.RegisterGoodAddr, Function.update_noteq ha]

theorem Inv.RegisterConnectedAddr (h : d.Inv) (x : String) : (d.RegisterConnectedAddr x).Inv := by
  refine ⟨consistent_of_update x h.consistent ?_ fun a ha => ?_, h.pool_le⟩
  · simpa [entries, DefaultDiscovery.RegisterConnectedAddr] using (h.consistent x).registerConnected
  · simp [entries, DefaultDiscovery.RegisterConnectedAddr, Function.update_noteq ha]

theorem Inv.UnregisterConnectedAddr (h : d.Inv) (x : String) : (d.UnregisterConnectedAddr x).Inv := by
  refine ⟨consistent_of_update x h.consistent ?_ fun a ha => ?_, h.pool_le⟩
  · simpa [entries, DefaultDiscovery.UnregisterConnectedAddr] using (h.consistent x).unregisterConnected
  · simp [entries, DefaultDiscovery.UnregisterConnectedAddr, Function.update_noteq ha]

theorem Inv.attempted (h : d.Inv) (attempted : String → Option Bool) :
    ({ d with attempted := attempted } : DefaultDiscovery Capabilities).Inv :=
  ⟨h.consistent, h.pool_le⟩

theorem Inv.tryAddress (h : d.Inv) (x : String) (dialFailed : Bool) :
    (d.tryAddress x dialFailed).Inv := by
  unfold DefaultDiscovery.tryAddress
  split_ifs
  exacts [(h.attempted _).RegisterBadAddr x, h.attempted _]

theorem Inv.refillSeed (h : d.Inv) (x : String) : (d.refillSeed x).Inv := by
  refine ⟨consistent_of_entries h.consistent (fun _ => AddrEntries.Consistent.refillSeed)
    (entries_refillSeed d x), ?_⟩
  unfold DefaultDiscovery.refillSeed
  split_ifs
  exacts [pool_pushToPoolOrDrop_le x h.pool_le, h.pool_le]

theorem Inv.seedRefill (h : d.Inv) : d.seedRefill.Inv := by
  unfold DefaultDiscovery.seedRefill
  generalize d.seeds = seeds
  induction seeds generalizing d with
  | nil => exact h
  | cons x xs ih => exact ih (h.refillSeed x)

theorem Inv.runSelect (h : d.Inv) : d.runSelect.Inv := by
  unfold DefaultDiscovery.runSelect
  split
  · rename_i addr rest hpool
    have hrest : ({ d with pool := rest } : DefaultDiscovery Capabilities).Inv :=
      ⟨h.consistent, Nat.le_of_succ_le (by simpa [hpool] using h.pool_le)⟩
    unfold DefaultDiscovery.poolTake
    split_ifs
    exacts [hrest.attempted _, hrest]
  · exact h.seedRefill

theorem Inv.step (h : d.Inv) : ∀ e : Event Capabilities, (d.step e).Inv
  | .BackFill addrs => h.BackFill addrs
  | .RegisterBadAddr addr => h.RegisterBadAddr addr
  | .RegisterGoodAddr s c => h.RegisterGoodAddr s c
  | .RegisterConnectedAddr addr => h.RegisterConnectedAddr addr
  | .UnregisterConnectedAddr s => h.UnregisterConnectedAddr s
  | .tryAddress addr dialFailed => h.tryAddress addr dialFailed
  | .runSelect => h.runSelect

end Steps

theorem inv_NewDefaultDiscovery (seeds : List String) :
    (NewDefaultDiscovery seeds : DefaultDiscovery Capabilities).Inv :=
  ⟨fun _ => ⟨nofun, nofun, nofun, nofun⟩, Nat.zero_le _⟩

theorem Reachable.inv {d : DefaultDiscovery Capabilities} (h : Reachable d) : d.Inv := by
  induction h with
  | init seeds => exact inv_NewDefaultDiscovery seeds
  | step e _ ih => exact ih.step e

/-- In every state reachable from `NewDefaultDiscovery`, under any
    interleaving of the operations: an address waiting in `unconnectedAddrs`
    has between 1 and `connRetries` retries left and is neither in
    `connectedAddrs` nor in `badAddrs`, and no address is both bad and good. -/
theorem Reachable.addrMaps_consistent {d : DefaultDiscovery Capabilities} (h : Reachable d)
    (a : String) :
    (∀ n, d.unconnectedAddrs a = some n → 1 ≤ n ∧ n ≤ connRetries) ∧
    (d.unconnectedAddrs a ≠ none → d.connectedAddrs a = none ∧ d.badAddrs a = none) ∧
    (d.badAddrs a ≠ none → d.goodAddrs a = none) := by
  have hc := h.inv.consistent a
  refine ⟨fun n hn => ⟨(hc.unconnected n hn).1, (hc.unconnected n hn).2.1⟩, fun hne => ?_,
    hc.bad_good⟩
  obtain ⟨n, hn⟩ := Option.ne_none_iff_exists'.1 hne
  exact (hc.unconnected n hn).2.2

theorem Reachable.addrMaps_consistent_backFill :
    (∀ n, ((NewDefaultDiscovery ["seed"] : DefaultDiscovery Unit).step
        (.BackFill ["peer"])).unconnectedAddrs "peer" = some n →
      1 ≤ n ∧ n ≤ connRetries) ∧
    (((NewDefaultDiscovery ["seed"] : DefaultDiscovery Unit).step
        (.BackFill ["peer"])).unconnectedAddrs "peer" ≠ none →
      ((NewDefaultDiscovery ["seed"] : DefaultDiscovery Unit).step
          (.BackFill ["peer"])).connectedAddrs "peer" = none ∧
        ((NewDefaultDiscovery ["seed"] : DefaultDiscovery Unit).step
          (.BackFill ["peer"])).badAddrs "peer" = none) ∧
    (((NewDefaultDiscovery ["seed"] : DefaultDiscovery Unit).step
        (.BackFill ["peer"])).badAddrs "peer" ≠ none →
      ((NewDefaultDiscovery ["seed"] : DefaultDiscovery Unit).step
        (.BackFill ["peer"])).goodAddrs "peer" = none) :=
  Reachable.addrMaps_consistent (.step (.BackFill ["peer"]) (.init ["seed"])) "peer"

end DefaultDiscovery

end neogo.network
