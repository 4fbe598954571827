import NeoNode.Core.Interop.Storage

namespace neogo.core

/-- The storage fee as the spec prices a put, in units of the storage price:
    the key and value lengths for a new entry, nothing for an empty value, the
    rounded-up quarter of the new value when it does not outgrow the old one,
    and otherwise the rounded-up quarter of the old value plus the growth. -/
def storageFeeSpec (old : Option Bytes) (key value : Bytes) : Nat :=
  match old with
  | none => key.length + value.length
  | some o =>
    if value.length = 0 then 0
    else if value.length ≤ o.length then (value.length + 3) / 4
    else (o.length + 3) / 4 + value.length - o.length

/-- The code's `(len-1)/4+1` arithmetic and its `len(si) != 0` branch compute
    the spec's fee. -/
theorem sizeInc_eq_storageFeeSpec (si : Option Bytes) (key value : Bytes) :
    sizeInc si key value = storageFeeSpec si key value := by
  cases si with
  | none => rfl
  | some o =>
    simp only [sizeInc, storageFeeSpec]
    split_ifs <;> omega

/-- Writing a value over any prior state costs at most writing it to a fresh
    key. -/
theorem sizeInc_le_absent (si : Option Bytes) (key value : Bytes) :
    sizeInc si key value ≤ sizeInc none key value := by
  cases si with
  | none => exact Nat.le_refl _
  | some o =>
    simp only [sizeInc]
    split_ifs <;> omega

/-- Overwriting pays at least for the growth of the entry. -/
theorem length_sub_le_sizeInc (o key value : Bytes) :
    value.length - o.length ≤ sizeInc (some o) key value := by
  simp only [sizeInc]
  split_ifs <;> omega

/-- Overwriting a shorter old value costs at most overwriting a longer one
    plus the difference in length. -/
theorem sizeInc_le_sizeInc_add (o mid key value : Bytes) :
    sizeInc (some o) key value ≤ sizeInc (some mid) key value + (mid.length - o.length) := by
  simp only [sizeInc]
  split_ifs <;> omega

/-- Going through an intermediate value never costs less than writing the
    final value directly. -/
theorem sizeInc_triangle (si : Option Bytes) (key mid value : Bytes) :
    sizeInc si key value ≤ sizeInc si key mid + sizeInc (some mid) key value := by
  have hgrow := length_sub_le_sizeInc mid key value
  cases si with
  | none =>
    simp only [sizeInc] at hgrow ⊢
    omega
  | some o =>
    have hshorter := sizeInc_le_sizeInc_add o mid key value
    have hpaid := length_sub_le_sizeInc o key mid
    omega

section Charge

variable {env : Env} {ic : Context}

/-- A put through a writable context, with a key and a value within the
    storage limits, asks the meter for the storage price times the spec's fee
    for the entry's prior state, and writes the value exactly when the meter
    accepts the charge. -/
theorem putWithContext_charge (stc : StorageContext) (hw : stc.ReadOnly = false) (key value : Bytes)
    (hkey : key.length ≤ env.maxStorageKeyLen) (hvalue : value.length ≤ env.maxStorageValueLen) :
    putWithContext env stc key value ic =
      if GasAccepts ic (env.storagePrice * storageFeeSpec (ic.DAO (stc.ID, key)) key value) then
        .ok () { ic with
          gasConsumed :=
            ic.gasConsumed + env.storagePrice * storageFeeSpec (ic.DAO (stc.ID, key)) key value
          DAO := Function.update ic.DAO (stc.ID, key) (some value) }
      else .error errGasLimitExceeded ic := by
  rw [putWithContext_eq, ← sizeInc_eq_storageFeeSpec, Int.mul_comm]
  simp [Nat.not_lt.2 hkey, Nat.not_lt.2 hvalue, hw]

theorem putWithContext_charge_fresh_key :
    putWithContext ⟨0, fun _ => .ok ⟨1⟩, 100000, 64, 65535⟩ ⟨1, false⟩ [1] [2, 3]
        ⟨fun _ => none, [], 0, 300000, 0⟩ =
      if GasAccepts ⟨fun _ => none, [], 0, 300000, 0⟩ (100000 * storageFeeSpec none [1] [2, 3]) then
        .ok () ⟨Function.update (fun _ => none) (1, [1]) (some [2, 3]), [],
          0 + 100000 * storageFeeSpec none [1] [2, 3], 300000, 0⟩
      else .error errGasLimitExceeded ⟨fun _ => none, [], 0, 300000, 0⟩ :=
  @putWithContext_charge ⟨0, fun _ => .ok ⟨1⟩, 100000, 64, 65535⟩ _ ⟨1, false⟩ rfl [1] [2, 3]
    (by decide) (by decide)

end Charge

/-- A call a contract makes on one storage entry: a put of a value, or a
    delete. -/
inductive EntryOp
  | put (value : Bytes)
  | delete
deriving DecidableEq, Repr

/-- The contract pushes the call's arguments and invokes the syscall through
    `stc` on `key`. -/
def EntryOp.call (env : Env) (stc : StorageContext) (key : Bytes) : EntryOp → Interop Unit
  | .put value => do
    pushItem (.ByteArray value)
    pushItem (.ByteArray key)
    pushItem (.Interop (.storageContext stc))
    storagePut env
  | .delete => do
    pushItem (.ByteArray key)
    pushItem (.Interop (.storageContext stc))
    storageDelete

/-- The calls one after another, stopping at the first that fails. -/
def callAll (env : Env) (stc : StorageContext) (key : Bytes) : List EntryOp → Interop Unit
  | [] => pure ()
  | op :: ops => op.call env stc key >>= fun _ => callAll env stc key ops

/-- The entry a call leaves behind. -/
def EntryOp.after : Option Bytes → EntryOp → Option Bytes
  | _, .put value => some value
  | _, .delete => none

/-- The fee the calls charge, in units of the storage price, starting from an
    entry holding `si`: each put pays `sizeInc` for the entry it finds, and a
    delete pays nothing. -/
def chargedFee (key : Bytes) : Option Bytes → List EntryOp → Nat
  | _, [] => 0
  | si, .put value :: ops => sizeInc si key value + chargedFee key (some value) ops
  | _, .delete :: ops => chargedFee key none ops

section Calls

variable {env : Env} {stc : StorageContext} {key : Bytes} {ic ic' : Context}

theorem EntryOp.call_put (value : Bytes) :
    (EntryOp.put value).call env stc key ic = putWithContext env stc key value ic := rfl

theorem EntryOp.call_delete_eq_ok :
    EntryOp.delete.call env stc key ic = .ok () ic' ↔
      stc.ReadOnly = false ∧ ic' = { ic with DAO := Function.update ic.DAO (stc.ID, key) none } := by
  show storageDelete { ic with
    estack := .Interop (.storageContext stc) :: .ByteArray key :: ic.estack } = _ ↔ _
  rw [storageDelete_eq_ok]
  simp [StackItem.TryBytes]

/-- One successful call on the entry: it holds what the call leaves behind,
    and the meter has charged the storage price times the call's fee. -/
theorem EntryOp.call_spec {op : EntryOp} (h : op.call env stc key ic = .ok () ic') :
    ic'.DAO (stc.ID, key) = EntryOp.after (ic.DAO (stc.ID, key)) op ∧
      ic'.gasConsumed =
        ic.gasConsumed + chargedFee key (ic.DAO (stc.ID, key)) [op] * env.storagePrice := by
  cases op with
  | put value =>
    rw [EntryOp.call_put, putWithContext_eq] at h
    split_ifs at h
    cases h
    simp [EntryOp.after, chargedFee]
  | delete =>
    obtain ⟨-, rfl⟩ := EntryOp.call_delete_eq_ok.1 h
    simp [EntryOp.after, chargedFee]

theorem chargedFee_cons (si : Option Bytes) (op : EntryOp) (ops : List EntryOp) :
    chargedFee key si (op :: ops) = chargedFee key si [op] + chargedFee key (op.after si) ops := by
  cases op <;> simp [chargedFee, EntryOp.after]

/-- A successful sequence of calls leaves the entry as the calls say, and
    charges the storage price times their total fee. -/
theorem callAll_spec {ops : List EntryOp} (h : callAll env stc key ops ic = .ok () ic') :
    ic'.DAO (stc.ID, key) = ops.foldl EntryOp.after (ic.DAO (stc.ID, key)) ∧
      ic'.gasConsumed =
        ic.gasConsumed + chargedFee key (ic.DAO (stc.ID, key)) ops * env.storagePrice := by
  induction ops generalizing ic with
  | nil => cases h; simp [chargedFee]
  | cons op ops ih =>
    obtain ⟨ic₁, h₁, h₂⟩ : ∃ ic₁, op.call env stc key ic = .ok () ic₁ ∧
        callAll env stc key ops ic₁ = .ok () ic' := by
      obtain ⟨u, ic₁, h₁, h₂⟩ := bind_eq_ok.1 h
      exact ⟨ic₁, h₁, h₂⟩
    obtain ⟨hdao₁, hgas₁⟩ := EntryOp.call_spec h₁
    obtain ⟨hdao, hgas⟩ := ih h₂
    refine ⟨by rw [hdao, hdao₁]; rfl, ?_⟩
    rw [hgas, hgas₁, hdao₁, chargedFee_cons _ op ops, Int.natCast_add, Int.add_mul, Int.add_assoc]

/-- Over any non-empty sequence of calls that ends with the entry holding
    `value`, the calls' total fee is at least the fee of writing `value`
    directly over the entry's first state. -/
theorem sizeInc_le_chargedFee (si : Option Bytes) (ops : List EntryOp) (hne : ops ≠ [])
    (value : Bytes) (hv : ops.foldl EntryOp.after si = some value) :
    sizeInc si key value ≤ chargedFee key si ops := by
  induction ops generalizing si with
  | nil => exact absurd rfl hne
  | cons op ops ih =>
    rw [chargedFee_cons]
    cases ops with
    | nil =>
      cases op with
      | put mid => cases hv; simp [chargedFee]
      | delete => cases hv
    | cons op' ops' =>
      have hrest := ih (op.after si) (List.cons_ne_nil _ _) hv
      cases op with
      | put mid =>
        have := sizeInc_triangle si key mid value
        simp only [chargedFee, EntryOp.after] at hrest ⊢
        omega
      | delete =>
        have := sizeInc_le_absent si key value
        simp only [chargedFee, EntryOp.after] at hrest ⊢
        omega

/-- Over any non-empty sequence of successful puts and deletes on one entry
    that leaves it holding `value`, the meter is charged the storage price
    times the calls' total fee, and that total is at least the fee of writing
    `value` directly over the entry's first state: shrinking or emptying the
    value first, or deleting and re-creating the key, never saves gas. -/
theorem callAll_chargedFee_ge {ops : List EntryOp} (hne : ops ≠ [])
    (h : callAll env stc key ops ic = .ok () ic') {value : Bytes}
    (hv : ic'.DAO (stc.ID, key) = some value) :
    ic'.gasConsumed = ic.gasConsumed + chargedFee key (ic.DAO (stc.ID, key)) ops * env.storagePrice ∧
      sizeInc (ic.DAO (stc.ID, key)) key value ≤ chargedFee key (ic.DAO (stc.ID, key)) ops := by
  obtain ⟨hdao, hgas⟩ := callAll_spec h
  exact ⟨hgas, sizeInc_le_chargedFee _ ops hne value (hdao ▸ hv)⟩

theorem callAll_chargedFee_ge_shrink :
    callAll ⟨0, fun _ => .ok ⟨1⟩, 1, 64, 65535⟩ ⟨1, false⟩ [1]
        [.put [7, 7, 7, 7, 7, 7], .put [7]]
        ⟨fun _ => none, [], 0, -1, 0⟩ =
      .ok () ⟨Function.update (Function.update (fun _ => none) (1, [1]) (some [7, 7, 7, 7, 7, 7]))
        (1, [1]) (some [7]), [], 8, -1, 0⟩ ∧
    (8 : Int) = 0 + chargedFee [1] none [.put [7, 7, 7, 7, 7, 7], .put [7]] * 1 ∧
      sizeInc none [1] [7] ≤ chargedFee [1] none [.put [7, 7, 7, 7, 7, 7], .put [7]] :=
  have hrun : callAll ⟨0, fun _ => .ok ⟨1⟩, 1, 64, 65535⟩ ⟨1, false⟩ [1]
      [.put [7, 7, 7, 7, 7, 7], .put [7]]
      ⟨fun _ => none, [], 0, -1, 0⟩ =
      .ok () ⟨Function.update (Function.update (fun _ => none) (1, [1]) (some [7, 7, 7, 7, 7, 7]))
        (1, [1]) (some [7]), [], 8, -1, 0⟩ := by
    simp [callAll, EntryOp.call_put, putWithContext_eq, GasAccepts, bind_eq_ok, sizeInc]
  ⟨hrun, callAll_chargedFee_ge (List.cons_ne_nil _ _) hrun (by simp)⟩

end Calls

end neogo.core
