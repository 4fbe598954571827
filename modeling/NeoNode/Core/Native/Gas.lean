import NeoNode.Core.Interop.Context

namespace neogo.core.state

/-- `state.NEP17Balance`, the record a GAS balance is stored as. -/
structure NEP17Balance where
  Balance : Int
deriving DecidableEq, Repr

/-- Modelled from the spec: `state.NEP17BalanceFromBytes` and the serializer
    behind it are absent from src. A storage item is kept as the record it
    encodes, `none` standing for a nil or empty item, which reads as a zero
    balance. -/
def NEP17BalanceFromBytes (si : Option NEP17Balance) : NEP17Balance := si.getD ⟨0⟩

@[simp] theorem NEP17BalanceFromBytes_none : NEP17BalanceFromBytes none = ⟨0⟩ := rfl

@[simp] theorem NEP17BalanceFromBytes_some (acc : NEP17Balance) :
    NEP17BalanceFromBytes (some acc) = acc := rfl

end neogo.core.state

namespace neogo.core.native

open neogo.core.state

/-- A GAS balance storage item: `none` is nil, `some acc` stands for
    `acc.Bytes(nil)`. -/
abbrev StorageItem := Option NEP17Balance

/-- `GAS.increaseBalance` on the item `*si`: a zero amount only checks the
    balance against `checkBal`; a negative amount is refused when its absolute
    value exceeds the balance's; otherwise the amount is added and the item
    rewritten, or set to nil when the balance becomes zero. A refused call
    leaves the item as it was. -/
def increaseBalance (amount : Int) (checkBal : Option Int) : EStateM String StorageItem Unit := fun si =>
  let acc := NEP17BalanceFromBytes si
  if amount.sign = 0 then
    if checkBal.any (fun c => decide (acc.Balance < c)) then .error "insufficient funds" si
    else .ok () si
  else if amount.sign = -1 ∧ acc.Balance.natAbs < amount.natAbs then .error "insufficient funds" si
  else
    let b := acc.Balance + amount
    if b.sign ≠ 0 then .ok () (some ⟨b⟩) else .ok () none

/-- `GAS.balanceFromBytes`. -/
def balanceFromBytes (si : StorageItem) : Int := (NEP17BalanceFromBytes si).Balance

/-- The GAS items by account. -/
abbrev Balances := Uint160 → StorageItem

/-- Modelled from the spec: `GAS.BalanceOf` reads through
    `balanceOfInternal`, absent from src; an absent record is a zero
    balance. -/
def BalanceOf (bals : Balances) (acc : Uint160) : Int := balanceFromBytes (bals acc)

/-- Modelled from the spec: `nep17TokenNative.updateAccBalance` is absent from
    src. It applies `increaseBalance` to the account's item and stores what it
    leaves, deleting the record when that is nil; a refused update changes no
    record. -/
def updateAccBalance (bals : Balances) (acc : Uint160) (amount : Int) (checkBal : Option Int) :
    Except String Balances :=
  match increaseBalance amount checkBal (bals acc) with
  | .ok () si => .ok (Function.update bals acc si)
  | .error e _ => .error e

/-- Modelled from the spec: `mint` adds `amount` to the account. -/
def mint (bals : Balances) (h : Uint160) (amount : Int) : Except String Balances :=
  updateAccBalance bals h amount none

/-- Modelled from the spec: `burn` takes `amount` from the account. -/
def burn (bals : Balances) (h : Uint160) (amount : Int) : Except String Balances :=
  updateAccBalance bals h (-amount) none

/-- One update of a GAS balance: a mint, a burn or one leg of a transfer. -/
structure BalanceUpdate where
  acc : Uint160
  amount : Int
  checkBal : Option Int

/-- The balances after the updates in turn; a refused update faults its
    invocation and changes nothing. -/
def applyUpdates (bals : Balances) : List BalanceUpdate → Balances
  | [] => bals
  | u :: us =>
    applyUpdates (match updateAccBalance bals u.acc u.amount u.checkBal with
      | .ok bals' => bals'
      | .error _ => bals) us

/-- Every stored record holds a strictly positive balance. -/
def AllPositive (bals : Balances) : Prop :=
  ∀ acc r, bals acc = some r → 0 < r.Balance

section IncreaseBalance

variable {amount : Int} {checkBal : Option Int} {si si' : StorageItem}

/-- Over a non-negative balance `b`, `increaseBalance` refuses exactly a
    negative amount larger than `b` and a zero amount checked against more
    than `b`; otherwise a zero amount keeps the item, and any other amount
    stores `b + amount`, as nil when that is zero. -/
theorem increaseBalance_eq {b : Int} (hsi : NEP17BalanceFromBytes si = ⟨b⟩) (hb : 0 ≤ b) :
    increaseBalance amount checkBal si =
      if (amount < 0 ∧ b < -amount) ∨ (amount = 0 ∧ ∃ c, checkBal = some c ∧ b < c) then
        .error "insufficient funds" si
      else if amount = 0 then .ok () si
      else if 0 < b + amount then .ok () (some ⟨b + amount⟩)
      else .ok () none := by
  simp only [increaseBalance, hsi, Int.sign_eq_zero_iff_zero, Int.sign_eq_neg_one_iff_neg, ne_eq]
  by_cases h0 : amount = 0
  · subst h0
    cases checkBal <;> simp
  · simp only [h0, if_false, false_and, or_false]
    split_ifs <;> first | rfl | omega

/-- A successful call adds `amount` to the balance the item reads as. -/
theorem increaseBalance_eq_ok_balance (h : increaseBalance amount checkBal si = .ok () si') :
    (NEP17BalanceFromBytes si').Balance = (NEP17BalanceFromBytes si).Balance + amount := by
  unfold increaseBalance at h
  simp only [Int.sign_eq_zero_iff_zero, Int.sign_eq_neg_one_iff_neg, ne_eq] at h
  split_ifs at h <;> cases h <;>
    simp only [NEP17BalanceFromBytes_some, NEP17BalanceFromBytes_none] at * <;> omega

/-- A non-negative amount with no balance to check is never refused. -/
theorem increaseBalance_ok_of_nonneg (hamount : 0 ≤ amount) (si : StorageItem) :
    ∃ si', increaseBalance amount none si = .ok () si' := by
  unfold increaseBalance
  simp only [Int.sign_eq_zero_iff_zero, Int.sign_eq_neg_one_iff_neg, ne_eq]
  split_ifs <;> first | exact ⟨_, rfl⟩ | omega | simp_all

/-- A successful call on a record that is absent or positive leaves one that
    is absent or positive. -/
theorem increaseBalance_positive (hsi : ∀ r, si = some r → 0 < r.Balance)
    (h : increaseBalance amount checkBal si = .ok () si') : ∀ r, si' = some r → 0 < r.Balance := by
  have hb : 0 ≤ (NEP17BalanceFromBytes si).Balance := by
    cases si with
    | none => exact le_refl _
    | some r => exact le_of_lt (hsi r rfl)
  rw [increaseBalance_eq rfl hb] at h
  split_ifs at h with hfail h₀ hpos <;> cases h
  · exact hsi
  · rintro r ⟨⟩
    exact hpos
  · nofun

end IncreaseBalance

/-- The item `increaseBalance` leaves for a balance: nil when it is zero. -/
def balanceItem (b : Int) : StorageItem := if b = 0 then none else some ⟨b⟩

section Composition

variable {amount a b : Int} {si si₁ si₂ : StorageItem}

/-- An item that is absent or positive is the item of its balance. -/
theorem balanceItem_balanceFromBytes (hsi : ∀ r, si = some r → 0 < r.Balance) :
    balanceItem (balanceFromBytes si) = si := by
  cases si with
  | none => rfl
  | some r =>
    have hr := hsi r rfl
    simp [balanceItem, balanceFromBytes, hr.ne']

/-- With no balance to check, over an item that is absent or positive,
    `increaseBalance` refuses exactly a negative amount larger than the
    balance, and otherwise leaves the item of the new balance. -/
theorem increaseBalance_none_eq (hsi : ∀ r, si = some r → 0 < r.Balance) :
    increaseBalance amount none si =
      if amount < 0 ∧ balanceFromBytes si < -amount then .error "insufficient funds" si
      else .ok () (balanceItem (balanceFromBytes si + amount)) := by
  have hb : 0 ≤ balanceFromBytes si := by
    cases si with
    | none => exact le_refl _
    | some r => exact le_of_lt (hsi r rfl)
  have hdec : NEP17BalanceFromBytes si = ⟨balanceFromBytes si⟩ := rfl
  rw [increaseBalance_eq hdec hb]
  by_cases h0 : amount = 0
  · subst h0
    simp [balanceItem_balanceFromBytes hsi]
  · simp only [h0, false_and, exists_false, or_false, if_false, balanceItem]
    split_ifs <;> first | rfl | omega

/-- Two successful changes of one balance with no balance to check make one
    change by their sum: on an item that is absent or positive, a call with
    `a + b` succeeds and leaves the same item. -/
theorem increaseBalance_add (hsi : ∀ r, si = some r → 0 < r.Balance)
    (h₁ : increaseBalance a none si = .ok () si₁) (h₂ : increaseBalance b none si₁ = .ok () si₂) :
    increaseBalance (a + b) none si = .ok () si₂ := by
  have hbal : balanceFromBytes si₁ = balanceFromBytes si + a := increaseBalance_eq_ok_balance h₁
  rw [increaseBalance_none_eq (increaseBalance_positive hsi h₁), hbal] at h₂
  rw [increaseBalance_none_eq hsi] at h₁ ⊢
  -- both calls were accepted, so the sum is not refused either
  split_ifs at h₁ h₂ with hr₁ hr₂
  cases h₁
  cases h₂
  rw [if_neg (by omega), add_assoc]

/-- A burn of 3 then a mint of 5 on a balance of 10. -/
theorem increaseBalance_add_burn_mint :
    increaseBalance (-3 + 5) none (some ⟨10⟩) = .ok () (some ⟨12⟩) :=
  increaseBalance_add (fun r hr => by cases hr; decide) rfl rfl

end Composition

section Updates

variable {bals bals' : Balances} {acc : Uint160} {amount : Int} {checkBal : Option Int}

/-- A successful update stored what `increaseBalance` left in the account's
    item. -/
theorem updateAccBalance_eq_ok :
    updateAccBalance bals acc amount checkBal = .ok bals' ↔
      ∃ si', increaseBalance amount checkBal (bals acc) = .ok () si' ∧
        bals' = Function.update bals acc si' := by
  unfold updateAccBalance
  split <;> simp_all [@eq_comm _ bals']

/-- A successful update changes only its account, by `amount`. -/
theorem updateAccBalance_balanceOf (h : updateAccBalance bals acc amount checkBal = .ok bals')
    (x : Uint160) : BalanceOf bals' x = BalanceOf bals x + if x = acc then amount else 0 := by
  obtain ⟨si', hinc, rfl⟩ := updateAccBalance_eq_ok.1 h
  by_cases hx : x = acc
  · subst hx
    simpa [BalanceOf, balanceFromBytes] using increaseBalance_eq_ok_balance hinc
  · simp [BalanceOf, Function.update_noteq hx, hx]

theorem AllPositive.updateAccBalance (hpos : AllPositive bals)
    (h : updateAccBalance bals acc amount checkBal = .ok bals') : AllPositive bals' := by
  obtain ⟨si', hinc, rfl⟩ := updateAccBalance_eq_ok.1 h
  intro x r hr
  by_cases hx : x = acc
  · subst hx
    exact increaseBalance_positive (hpos x) hinc r (by simpa using hr)
  · exact hpos x r (by simpa [Function.update_noteq hx] using hr)

theorem AllPositive.applyUpdates (hpos : AllPositive bals) (us : List BalanceUpdate) :
    AllPositive (applyUpdates bals us) := by
  induction us generalizing bals with
  | nil => exact hpos
  | cons u us ih =>
    apply ih
    split
    · rename_i hupd
      exact hpos.updateAccBalance hupd
    · exact hpos

end Updates

/-- `GAS.increaseBalance` over an item that is absent or holds a balance
    `b ≥ 0` refuses, leaving the item as it was, exactly a negative amount
    larger than `b` and a zero amount checked against more than `b`;
    otherwise a zero amount keeps the item, and any other amount stores
    `b + amount`, deleting the record when that is zero. So over any sequence
    of updates from no records every stored record is strictly positive. -/
theorem increaseBalance_spec_records_positive :
    (∀ (si : StorageItem) (b amount : Int) (checkBal : Option Int),
      NEP17BalanceFromBytes si = ⟨b⟩ → 0 ≤ b →
      increaseBalance amount checkBal si =
        if (amount < 0 ∧ b < -amount) ∨ (amount = 0 ∧ ∃ c, checkBal = some c ∧ b < c) then
          .error "insufficient funds" si
        else if amount = 0 then .ok () si
        else if 0 < b + amount then .ok () (some ⟨b + amount⟩)
        else .ok () none) ∧
    ∀ (us : List BalanceUpdate) (acc : Uint160) (r : NEP17Balance),
      applyUpdates (fun _ => none) us acc = some r → 0 < r.Balance :=
  ⟨fun _ _ _ _ hsi hb => increaseBalance_eq hsi hb,
    fun us => AllPositive.applyUpdates (fun _ _ h => Option.noConfusion h) us⟩

theorem increaseBalance_spec_records_positive_burn :
    increaseBalance (-3) none (some ⟨5⟩) =
      (if ((-3 : Int) < 0 ∧ (5 : Int) < - -3) ∨
          ((-3 : Int) = 0 ∧ ∃ c, (none : Option Int) = some c ∧ 5 < c) then
          .error "insufficient funds" (some ⟨5⟩)
        else if (-3 : Int) = 0 then .ok () (some ⟨5⟩)
        else if (0 : Int) < 5 + -3 then .ok () (some ⟨5 + -3⟩)
        else .ok () none) :=
  increaseBalance_spec_records_positive.1 (some ⟨5⟩) 5 (-3) none rfl (by decide)

end neogo.core.native
