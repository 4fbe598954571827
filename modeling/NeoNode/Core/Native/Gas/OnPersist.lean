import NeoNode.Core.Native.Gas

namespace neogo.core.native

open neogo.core.state

/-- The fields of a block's transaction that `OnPersist` reads; the fees are
    Go `int64`s. -/
structure Transaction where
  /-- `tx.Sender()`. -/
  Sender : Uint160
  SystemFee : BitVec 64
  NetworkFee : BitVec 64

/-- The fields of `ic.Block` that `OnPersist` reads. -/
structure Block where
  Transactions : List Transaction
  PrimaryIndex : UInt8

/-- The first loop of `OnPersist`: burn the system and network fee of each
    transaction, summed in `int64`, from its sender. -/
def burnFees (bals : Balances) : List Transaction → Except String Balances
  | [] => .ok bals
  | tx :: txs => do
    let bals ← burn bals tx.Sender (tx.SystemFee + tx.NetworkFee).toInt
    burnFees bals txs

/-- `GAS.OnPersist`: for a block with transactions, burn every transaction's
    fees from its sender, then mint the block's network fees, summed in
    `int64`, to the primary validator. `validators` are the script hashes of
    `g.NEO.GetNextBlockValidatorsInternal()`; indexing past them panics. -/
def OnPersist (validators : List Uint160) (block : Block) (bals : Balances) : Except String Balances :=
  if block.Transactions.length = 0 then .ok bals
  else do
    let bals ← burnFees bals block.Transactions
    match validators[block.PrimaryIndex.toNat]? with
    | none => .error "index out of range"
    | some primary =>
      let netFee := block.Transactions.foldl (fun netFee tx => netFee + tx.NetworkFee) 0
      mint bals primary netFee.toInt

/-- An `int64` sum of two non-negative values below `2^63` does not wrap. -/
theorem toInt_add_of_nonneg {x y : BitVec 64} (hx : 0 ≤ x.toInt) (hy : 0 ≤ y.toInt)
    (hlt : x.toInt + y.toInt < 2 ^ 63) : (x + y).toInt = x.toInt + y.toInt := by
  rw [BitVec.toInt_add, Int.bmod_def, Int.emod_eq_of_lt (by omega) (by omega), if_pos (by omega)]

section Loops

variable {bals bals₁ : Balances}

theorem burnFees_cons_eq_ok {tx : Transaction} {txs : List Transaction} :
    burnFees bals (tx :: txs) = .ok bals₁ ↔
      ∃ bals', burn bals tx.Sender (tx.SystemFee + tx.NetworkFee).toInt = .ok bals' ∧
        burnFees bals' txs = .ok bals₁ := by
  simp only [burnFees]
  cases burn bals tx.Sender (tx.SystemFee + tx.NetworkFee).toInt <;> simp [bind, Except.bind]

/-- The burn loop takes from each account the fees of the transactions it
    sent. -/
theorem burnFees_balanceOf {txs : List Transaction} (h : burnFees bals txs = .ok bals₁) (x : Uint160) :
    BalanceOf bals₁ x = BalanceOf bals x -
      ((txs.filter fun tx => tx.Sender = x).map fun tx => (tx.SystemFee + tx.NetworkFee).toInt).sum := by
  induction txs generalizing bals with
  | nil => cases h; simp
  | cons tx txs ih =>
    obtain ⟨bals', hburn, hrest⟩ := burnFees_cons_eq_ok.1 h
    rw [ih hrest, updateAccBalance_balanceOf hburn x, List.filter_cons]
    by_cases hx : x = tx.Sender
    · subst hx; simp; omega
    · simp [hx, Ne.symm hx]

/-- The network-fee loop computes the sum of the fees when no partial sum
    wraps. -/
theorem netFee_toInt (txs : List Transaction) (acc : BitVec 64) (hacc : 0 ≤ acc.toInt)
    (hfees : ∀ tx ∈ txs, 0 ≤ tx.NetworkFee.toInt)
    (hlt : acc.toInt + (txs.map fun tx => tx.NetworkFee.toInt).sum < 2 ^ 63) :
    (txs.foldl (fun netFee tx => netFee + tx.NetworkFee) acc).toInt =
      acc.toInt + (txs.map fun tx => tx.NetworkFee.toInt).sum := by
  induction txs generalizing acc with
  | nil => simp
  | cons tx txs ih =>
    simp only [List.foldl_cons, List.map_cons, List.sum_cons] at hlt ⊢
    have htx := hfees tx (List.mem_cons_self _ _)
    have hrest : 0 ≤ (txs.map fun tx => tx.NetworkFee.toInt).sum :=
      List.sum_nonneg (List.forall_mem_map.2 fun t ht => hfees t (List.mem_cons_of_mem _ ht))
    have hadd := toInt_add_of_nonneg hacc htx (by omega)
    rw [ih _ (by omega) (fun t ht => hfees t (List.mem_cons_of_mem _ ht)) (by omega), hadd]
    omega

/-- A transaction's `int64` fee sum does not wrap when the block's fees are
    non-negative and total below `2^63`. -/
theorem fee_toInt {txs : List Transaction}
    (hfees : ∀ tx ∈ txs, 0 ≤ tx.SystemFee.toInt ∧ 0 ≤ tx.NetworkFee.toInt)
    (htotal : (txs.map fun tx => tx.SystemFee.toInt + tx.NetworkFee.toInt).sum < 2 ^ 63)
    {tx : Transaction} (htx : tx ∈ txs) :
    (tx.SystemFee + tx.NetworkFee).toInt = tx.SystemFee.toInt + tx.NetworkFee.toInt := by
  have hle : tx.SystemFee.toInt + tx.NetworkFee.toInt ≤
      (txs.map fun tx => tx.SystemFee.toInt + tx.NetworkFee.toInt).sum :=
    List.single_le_sum (List.forall_mem_map.2 fun t ht => Int.add_nonneg (hfees t ht).1 (hfees t ht).2)
      _ (List.mem_map_of_mem _ htx)
  exact toInt_add_of_nonneg (hfees tx htx).1 (hfees tx htx).2 (by omega)

/-- Over a set of accounts holding every sender, the senders' shares of a
    per-transaction quantity add up to its total. -/
theorem sum_filter_sender (S : Finset Uint160) (f : Transaction → Int) (txs : List Transaction)
    (hS : ∀ tx ∈ txs, tx.Sender ∈ S) :
    ∑ h ∈ S, ((txs.filter fun tx => tx.Sender = h).map f).sum = (txs.map f).sum := by
  induction txs with
  | nil => simp
  | cons tx txs ih =>
    have hsplit : ∀ h, (((tx :: txs).filter fun t => t.Sender = h).map f).sum =
        (if tx.Sender = h then f tx else 0) + ((txs.filter fun t => t.Sender = h).map f).sum := by
      intro h
      by_cases hx : tx.Sender = h <;> simp [List.filter_cons, hx]
    rw [Finset.sum_congr rfl fun h _ => hsplit h, Finset.sum_add_distrib, Finset.sum_ite_eq,
      if_pos (hS tx (List.mem_cons_self _ _)), ih fun t ht => hS t (List.mem_cons_of_mem _ ht)]
    simp

end Loops

/-- Minting a non-negative amount never fails. -/
theorem mint_eq_ok {h : Uint160} {amount : Int} (hamount : 0 ≤ amount) (bals : Balances) :
    ∃ bals', mint bals h amount = .ok bals' := by
  obtain ⟨si', hinc⟩ := increaseBalance_ok_of_nonneg hamount (bals h)
  exact ⟨_, updateAccBalance_eq_ok.2 ⟨si', hinc, rfl⟩⟩

/-- On a block with transactions whose burns succeed and whose primary index
    is in range, `OnPersist` mints the block's network fee to the primary. -/
theorem OnPersist_eq_mint {validators : List Uint160} {block : Block} {bals bals₁ : Balances}
    {primary : Uint160} (hne : block.Transactions ≠ [])
    (hburn : burnFees bals block.Transactions = .ok bals₁)
    (hprimary : validators[block.PrimaryIndex.toNat]? = some primary) :
    OnPersist validators block bals =
      mint bals₁ primary
        (block.Transactions.foldl (fun (netFee : BitVec 64) tx => netFee + tx.NetworkFee) 0).toInt := by
  have hlen : block.Transactions.length ≠ 0 := fun h => hne (List.length_eq_zero.1 h)
  simp only [OnPersist, if_neg hlen, hburn, bind, Except.bind, hprimary]

/-- For a block with transactions, non-negative fees totalling below `2^63`,
    burns that all succeed and a primary validator `primary` at
    `PrimaryIndex`, `OnPersist` succeeds; it changes each account's balance
    by the network fees it mints to the primary less the fees its senders
    burn, and the balances of any set of accounts holding the primary and
    every sender by minus the total system fee. -/
theorem OnPersist_balances (validators : List Uint160) (block : Block) (bals : Balances)
    (primary : Uint160)
    (hne : block.Transactions ≠ [])
    (hfees : ∀ tx ∈ block.Transactions, 0 ≤ tx.SystemFee.toInt ∧ 0 ≤ tx.NetworkFee.toInt)
    (htotal : (block.Transactions.map fun tx => tx.SystemFee.toInt + tx.NetworkFee.toInt).sum < 2 ^ 63)
    (hburns : ∃ bals₁, burnFees bals block.Transactions = .ok bals₁)
    (hprimary : validators[block.PrimaryIndex.toNat]? = some primary) :
    ∃ bals', OnPersist validators block bals = .ok bals' ∧
      (∀ h, BalanceOf bals' h = BalanceOf bals h
        + (if h = primary then (block.Transactions.map fun tx => tx.NetworkFee.toInt).sum else 0)
        - ((block.Transactions.filter fun tx => tx.Sender = h).map
            fun tx => tx.SystemFee.toInt + tx.NetworkFee.toInt).sum) ∧
      ∀ S : Finset Uint160, primary ∈ S → (∀ tx ∈ block.Transactions, tx.Sender ∈ S) →
        ∑ h ∈ S, BalanceOf bals' h =
          ∑ h ∈ S, BalanceOf bals h - (block.Transactions.map fun tx => tx.SystemFee.toInt).sum := by
  obtain ⟨bals₁, hburn⟩ := hburns
  have hsum : (block.Transactions.map fun tx => tx.SystemFee.toInt + tx.NetworkFee.toInt).sum =
      (block.Transactions.map fun tx => tx.SystemFee.toInt).sum +
        (block.Transactions.map fun tx => tx.NetworkFee.toInt).sum := List.sum_map_add
  have hsys : 0 ≤ (block.Transactions.map fun tx => tx.SystemFee.toInt).sum :=
    List.sum_nonneg (List.forall_mem_map.2 fun t ht => (hfees t ht).1)
  have hnet₀ : 0 ≤ (block.Transactions.map fun tx => tx.NetworkFee.toInt).sum :=
    List.sum_nonneg (List.forall_mem_map.2 fun t ht => (hfees t ht).2)
  have hzero : (0 : BitVec 64).toInt = 0 := rfl
  have hnet := netFee_toInt block.Transactions 0 hzero.ge (fun tx htx => (hfees tx htx).2) (by omega)
  rw [hzero, zero_add] at hnet
  obtain ⟨bals', hmint⟩ := @mint_eq_ok primary _ hnet₀ bals₁
  have hbal : ∀ h, BalanceOf bals' h = BalanceOf bals h
      + (if h = primary then (block.Transactions.map fun tx => tx.NetworkFee.toInt).sum else 0)
      - ((block.Transactions.filter fun tx => tx.Sender = h).map
          fun tx => tx.SystemFee.toInt + tx.NetworkFee.toInt).sum := by
    intro h
    rw [updateAccBalance_balanceOf hmint, burnFees_balanceOf hburn,
      List.map_congr_left fun tx htx => fee_toInt hfees htotal (List.mem_filter.1 htx).1]
    omega
  refine ⟨bals', ?_, hbal, fun S hp hS => ?_⟩
  · rw [OnPersist_eq_mint hne hburn hprimary, hnet]
    simpa using hmint
  · rw [Finset.sum_congr rfl fun h _ => hbal h, Finset.sum_sub_distrib, Finset.sum_add_distrib,
      Finset.sum_ite_eq', if_pos hp, sum_filter_sender S _ _ hS]
    omega

theorem AllPositive.burnFees {bals bals₁ : Balances} (hpos : AllPositive bals) {txs : List Transaction}
    (h : burnFees bals txs = .ok bals₁) : AllPositive bals₁ := by
  induction txs generalizing bals with
  | nil => cases h; exact hpos
  | cons tx txs ih =>
    obtain ⟨bals', hburn, hrest⟩ := burnFees_cons_eq_ok.1 h
    exact ih (hpos.updateAccBalance hburn) hrest

/-- Persisting a block keeps every GAS record strictly positive: the fees it
    burns and the network fee it mints are balance updates like any other. -/
theorem OnPersist_allPositive (validators : List Uint160) (block : Block) {bals bals' : Balances}
    (hpos : AllPositive bals) (h : OnPersist validators block bals = .ok bals') : AllPositive bals' := by
  by_cases hne : block.Transactions = []
  · simp only [OnPersist, hne, List.length_nil, if_true, Except.ok.injEq] at h
    exact h ▸ hpos
  cases hburn : burnFees bals block.Transactions with
  | error e =>
    have hlen : block.Transactions.length ≠ 0 := fun h => hne (List.length_eq_zero.1 h)
    simp [OnPersist, hlen, hburn, bind, Except.bind] at h
  | ok bals₁ =>
    cases hprimary : validators[block.PrimaryIndex.toNat]? with
    | none =>
      have hlen : block.Transactions.length ≠ 0 := fun h => hne (List.length_eq_zero.1 h)
      simp [OnPersist, hlen, hburn, bind, Except.bind, hprimary] at h
    | some primary =>
      rw [OnPersist_eq_mint hne hburn hprimary] at h
      exact (hpos.burnFees hburn).updateAccBalance h

theorem OnPersist_balances_one_tx :
    ∃ bals', OnPersist [7] ⟨[⟨1, 2, 3⟩], 0⟩ (Function.update (fun _ => none) 1 (some ⟨10⟩)) =
        .ok bals' ∧
      (∀ h, BalanceOf bals' h = BalanceOf (Function.update (fun _ => none) 1 (some ⟨10⟩)) h
        + (if h = 7 then ([⟨1, 2, 3⟩] : List Transaction).map (fun tx => tx.NetworkFee.toInt) |>.sum
          else 0)
        - ((([⟨1, 2, 3⟩] : List Transaction).filter fun tx => tx.Sender = h).map
            fun tx => tx.SystemFee.toInt + tx.NetworkFee.toInt).sum) ∧
      ∀ S : Finset Uint160, 7 ∈ S →
        (∀ tx ∈ ([⟨1, 2, 3⟩] : List Transaction), tx.Sender ∈ S) →
        ∑ h ∈ S, BalanceOf bals' h =
          ∑ h ∈ S, BalanceOf (Function.update (fun _ => none) 1 (some ⟨10⟩)) h -
            (([⟨1, 2, 3⟩] : List Transaction).map fun tx => tx.SystemFee.toInt).sum :=
  OnPersist_balances [7] ⟨[⟨1, 2, 3⟩], 0⟩ _ 7 (List.cons_ne_nil _ _) (by decide) (by decide)
    ⟨_, rfl⟩ rfl

theorem OnPersist_allPositive_one_tx :
    AllPositive (Function.update (fun _ => none) 1 (some ⟨10⟩)) ∧
      OnPersist [7] ⟨[⟨1, 2, 3⟩], 0⟩ (Function.update (fun _ => none) 1 (some ⟨10⟩)) =
        .ok (Function.update (Function.update (Function.update (fun _ => none) 1 (some ⟨10⟩)) 1
          (some ⟨5⟩)) 7 (some ⟨3⟩)) ∧
      AllPositive (Function.update (Function.update (Function.update (fun _ => none) 1 (some ⟨10⟩)) 1
          (some ⟨5⟩)) 7 (some ⟨3⟩)) :=
  have hpos : AllPositive (Function.update (fun _ => none) 1 (some ⟨10⟩)) := by
    intro acc r hr
    by_cases hacc : acc = 1
    · subst hacc
      cases hr
      decide
    · rw [Function.update_noteq hacc] at hr
      cases hr
  have hrun :
      OnPersist [7] ⟨[⟨1, 2, 3⟩], 0⟩ (Function.update (fun _ => none) 1 (some ⟨10⟩)) =
      .ok (Function.update (Function.update (Function.update (fun _ => none) 1 (some ⟨10⟩)) 1
        (some ⟨5⟩)) 7 (some ⟨3⟩)) := rfl
  ⟨hpos, hrun, OnPersist_allPositive [7] ⟨[⟨1, 2, 3⟩], 0⟩ hpos hrun⟩

end neogo.core.native
