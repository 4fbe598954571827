import NeoNode.Core.Interop.Context

namespace neogo.core

/-- `errGasLimitExceeded`. -/
def errGasLimitExceeded : String := "gas limit exceeded"

/-- `errFindInvalidOptions`. -/
def errFindInvalidOptions : String := "invalid Find options"

/-! Modelled from the spec: the Find option bit-set of the `istorage` package,
which src does not include. The spec names six flags, each one bit; they are
given here in `istorage`'s order, and `FindAll` is their union. -/

/-- Modelled from the spec: `istorage.FindKeysOnly`. -/
def FindKeysOnly : BitVec 64 := 1
/-- Modelled from the spec: `istorage.FindRemovePrefix`. -/
def FindRemovePrefix : BitVec 64 := 2
/-- Modelled from the spec: `istorage.FindValuesOnly`. -/
def FindValuesOnly : BitVec 64 := 4
/-- Modelled from the spec: `istorage.FindDeserialize`. -/
def FindDeserialize : BitVec 64 := 8
/-- Modelled from the spec: `istorage.FindPick0`. -/
def FindPick0 : BitVec 64 := 16
/-- Modelled from the spec: `istorage.FindPick1`. -/
def FindPick1 : BitVec 64 := 32
/-- Modelled from the spec: `istorage.FindAll`, every known flag. -/
def FindAll : BitVec 64 :=
  FindKeysOnly ||| FindRemovePrefix ||| FindValuesOnly ||| FindDeserialize ||| FindPick0 ||| FindPick1

/-- `big.Int.Int64()`: the low 64 bits of the value's magnitude, negated for a
    negative value, that is the value modulo `2^64` read as an `int64`. -/
def bigIntInt64 (n : Int) : BitVec 64 := BitVec.ofInt 64 n

/-- `storageDelete` deletes stored key-value pair. -/
def storageDelete : Interop Unit := do
  let stc ← popStorageContext
  if stc.ReadOnly then throw "StorageContext is read only"
  let key ← popBytes
  deleteStorageItem stc.ID key

/-- The item `storageGet` pushes: the stored bytes, or `Null` for an absent
    item. -/
def StackItem.ofStorageItem : Option Bytes → StackItem
  | some si => .ByteArray si
  | none => .Null

/-- `storageGet` returns stored key-value pair. -/
def storageGet : Interop Unit := do
  let stc ← popStorageContext
  let key ← popBytes
  let si ← getStorageItem stc.ID key
  pushItem (.ofStorageItem si)

/-- `storageGetContextInternal` is the internal version of `storageGetContext`
    and `storageGetReadOnlyContext` which allows to specify the ReadOnly flag. -/
def storageGetContextInternal (env : Env) (isReadOnly : Bool) : Interop Unit :=
  match env.getContract env.currentScriptHash with
  | .error err => throw err
  | .ok contract => pushItem (.Interop (.storageContext { ID := contract.ID, ReadOnly := isReadOnly }))

/-- `storageGetContext` returns storage context (scripthash). -/
def storageGetContext (env : Env) : Interop Unit := storageGetContextInternal env false

/-- `storageGetReadOnlyContext` returns read-only context (scripthash). -/
def storageGetReadOnlyContext (env : Env) : Interop Unit := storageGetContextInternal env true

/-- The storage growth `putWithContext` charges for, in units of the storage
    price: the whole entry for a new key, nothing for an empty value, a quarter
    of the new value (rounded up) when it does not outgrow the old one, and
    otherwise a quarter of the old value plus the growth. -/
def sizeInc (si : Option Bytes) (key value : Bytes) : Nat :=
  match si with
  | none => key.length + value.length
  | some si =>
    if value.length ≠ 0 then
      if value.length ≤ si.length then (value.length - 1) / 4 + 1
      else if si.length ≠ 0 then (si.length - 1) / 4 + 1 + value.length - si.length
      else value.length
    else value.length

/-- `putWithContext` checks the sizes and the context, charges the storage fee
    and writes the item. -/
def putWithContext (env : Env) (stc : StorageContext) (key value : Bytes) : Interop Unit := do
  if key.length > env.maxStorageKeyLen then throw "key is too big"
  if value.length > env.maxStorageValueLen then throw "value is too big"
  if stc.ReadOnly then throw "StorageContext is read only"
  let si ← getStorageItem stc.ID key
  if !(← addGas (sizeInc si key value * env.storagePrice)) then throw errGasLimitExceeded
  putStorageItem stc.ID key value

/-- `storagePut` puts key-value pair into the storage. -/
def storagePut (env : Env) : Interop Unit := do
  let stc ← popStorageContext
  let key ← popBytes
  let value ← popBytes
  putWithContext env stc key value

/-- `storageContextAsReadOnly` sets given context to read-only mode. -/
def storageContextAsReadOnly : Interop Unit := do
  let stc ← popStorageContext
  let stc := if !stc.ReadOnly then { ID := stc.ID, ReadOnly := true } else stc
  pushItem (.Interop (.storageContext stc))

/-- The option checks of `storageFind`, in the order it makes them: the error
    of the first check that fails, if any. -/
def findOptionsError (opts : BitVec 64) : Option String :=
  if opts &&& ~~~FindAll ≠ 0 then some (errFindInvalidOptions ++ ": unknown flag")
  else if opts &&& FindKeysOnly ≠ 0 ∧ opts &&& (FindDeserialize ||| FindPick0 ||| FindPick1) ≠ 0 then
    some (errFindInvalidOptions ++ " KeysOnly conflicts with other options")
  else if opts &&& FindValuesOnly ≠ 0 ∧ opts &&& (FindKeysOnly ||| FindRemovePrefix) ≠ 0 then
    some (errFindInvalidOptions ++ ": KeysOnly conflicts with ValuesOnly")
  else if opts &&& FindPick0 ≠ 0 ∧ opts &&& FindPick1 ≠ 0 then
    some (errFindInvalidOptions ++ ": Pick0 conflicts with Pick1")
  else if opts &&& FindDeserialize = 0 ∧ (opts &&& FindPick0 ≠ 0 ∨ opts &&& FindPick1 ≠ 0) then
    some (errFindInvalidOptions ++ ": PickN is specified without Deserialize")
  else none

/-- `storageFind` finds stored key-value pairs: it checks the options, starts
    the scan and pushes its iterator, and registers the scan's cancel
    function. -/
def storageFind : Interop Unit := do
  let stc ← popStorageContext
  let keyPrefix ← popBytes
  let opts := bigIntInt64 (← popBigInt)
  returnErr (findOptionsError opts)
  pushItem (.Interop (.iterator { seekID := stc.ID, seekPrefix := keyPrefix, opts }))
  registerCancelFunc

section Spec

variable {env : Env} {ic ic' : Context}

theorem storageDelete_eq_ok :
    storageDelete ic = .ok () ic' ↔
      ∃ stc, ic.estack.head? = some (.Interop (.storageContext stc)) ∧ stc.ReadOnly = false ∧
        ∃ key, (∃ item, ic.estack[1]? = some item ∧ item.TryBytes = .ok key) ∧
          ic' = { ic with estack := ic.estack.tail.tail,
                          DAO := Function.update ic.DAO (stc.ID, key) none } := by
  simp only [storageDelete, bind_eq_ok, popStorageContext_eq_ok, popBytes_eq_ok, ite_apply_ctx,
    pure_bind, ite_eq_iff, throw_bind_apply, deleteStorageItem_apply]
  simp only [reduceCtorEq, and_false, Bool.not_eq_true, EStateM.Result.ok.injEq, true_and, and_assoc,
    exists_and_left, exists_eq_left, false_or, List.head?_tail, @eq_comm _ ic']

theorem storageGet_eq_ok :
    storageGet ic = .ok () ic' ↔
      ∃ stc, ic.estack.head? = some (.Interop (.storageContext stc)) ∧
        ∃ key, (∃ item, ic.estack[1]? = some item ∧ item.TryBytes = .ok key) ∧
          ic' = { ic with estack := .ofStorageItem (ic.DAO (stc.ID, key)) :: ic.estack.tail.tail } := by
  simp only [storageGet, bind_eq_ok, popStorageContext_eq_ok, popBytes_eq_ok, getStorageItem_apply,
    pushItem_apply]
  simp only [EStateM.Result.ok.injEq, true_and, and_assoc, exists_and_left, exists_eq_left',
    exists_eq_left, List.head?_tail, @eq_comm _ ic']

theorem storageGetContextInternal_eq_ok (isReadOnly : Bool) :
    storageGetContextInternal env isReadOnly ic = .ok () ic' ↔
      ∃ c, env.getContract env.currentScriptHash = .ok c ∧
        ic' = { ic with
          estack := .Interop (.storageContext { ID := c.ID, ReadOnly := isReadOnly }) :: ic.estack } := by
  unfold storageGetContextInternal
  cases env.getContract env.currentScriptHash <;> simp [@eq_comm _ ic']

private theorem readOnly_narrow (stc : StorageContext) :
    (if (!stc.ReadOnly) = true then { ID := stc.ID, ReadOnly := true } else stc) =
      { ID := stc.ID, ReadOnly := true } := by
  cases stc with
  | mk id ro => cases ro <;> rfl

theorem storageContextAsReadOnly_eq_ok :
    storageContextAsReadOnly ic = .ok () ic' ↔
      ∃ stc, ic.estack.head? = some (.Interop (.storageContext stc)) ∧
        ic' = { ic with
          estack := .Interop (.storageContext { ID := stc.ID, ReadOnly := true }) :: ic.estack.tail } := by
  simp only [storageContextAsReadOnly, bind_eq_ok, popStorageContext_eq_ok, pushItem_apply,
    readOnly_narrow]
  simp only [EStateM.Result.ok.injEq, true_and, and_assoc, exists_and_left, exists_eq_left,
    @eq_comm _ ic']

theorem putWithContext_eq (stc : StorageContext) (key value : Bytes) :
    putWithContext env stc key value ic =
      if key.length > env.maxStorageKeyLen then .error "key is too big" ic
      else if value.length > env.maxStorageValueLen then .error "value is too big" ic
      else if stc.ReadOnly then .error "StorageContext is read only" ic
      else if GasAccepts ic (sizeInc (ic.DAO (stc.ID, key)) key value * env.storagePrice) then
        .ok () { ic with
          gasConsumed := ic.gasConsumed + sizeInc (ic.DAO (stc.ID, key)) key value * env.storagePrice
          DAO := Function.update ic.DAO (stc.ID, key) (some value) }
      else .error errGasLimitExceeded ic := by
  by_cases h₁ : key.length > env.maxStorageKeyLen
  · simp only [putWithContext, h₁, if_true]; rfl
  by_cases h₂ : value.length > env.maxStorageValueLen
  · simp only [putWithContext, h₁, h₂, if_true, if_false]; rfl
  by_cases h₃ : stc.ReadOnly
  · simp only [putWithContext, h₁, h₂, h₃, if_true, if_false]; rfl
  by_cases hgas : GasAccepts ic (sizeInc (ic.DAO (stc.ID, key)) key value * env.storagePrice) <;>
    simp only [putWithContext, h₁, h₂, h₃, hgas, if_true, if_false, bind, EStateM.bind, pure,
      EStateM.pure, getStorageItem, addGas, ↓reduceIte, Bool.false_eq_true] <;> rfl

/-- A failed put changes nothing: every check comes before the charge, and a
    refused charge leaves the meter as it was. -/
theorem putWithContext_eq_error {stc : StorageContext} {key value : Bytes} {e : String}
    (h : putWithContext env stc key value ic = .error e ic') : ic' = ic := by
  rw [putWithContext_eq] at h
  split_ifs at h <;> cases h <;> rfl

/-- A successful put went through a writable context; it charged the meter and
    wrote the addressed entry, and changed nothing else. -/
theorem putWithContext_eq_ok {stc : StorageContext} {key value : Bytes}
    (h : putWithContext env stc key value ic = .ok () ic') :
    stc.ReadOnly = false ∧ ∃ gas, ic' = { ic with
      gasConsumed := gas, DAO := Function.update ic.DAO (stc.ID, key) (some value) } := by
  rw [putWithContext_eq] at h
  split_ifs at h with h₁ h₂ h₃
  cases h
  exact ⟨by simpa using h₃, _, rfl⟩

theorem storagePut_eq_ok :
    storagePut env ic = .ok () ic' ↔
      ∃ stc, ic.estack.head? = some (.Interop (.storageContext stc)) ∧
        ∃ key, (∃ item, ic.estack[1]? = some item ∧ item.TryBytes = .ok key) ∧
        ∃ value, (∃ item, ic.estack[2]? = some item ∧ item.TryBytes = .ok value) ∧
          putWithContext env stc key value { ic with estack := ic.estack.tail.tail.tail } =
            .ok () ic' := by
  simp only [storagePut, bind_eq_ok, popStorageContext_eq_ok, popBytes_eq_ok]
  simp only [and_assoc, exists_and_left, exists_eq_left, List.head?_tail, List.getElem?_tail,
    Nat.reduceAdd]

theorem storageFind_eq_ok :
    storageFind ic = .ok () ic' ↔
      ∃ stc, ic.estack.head? = some (.Interop (.storageContext stc)) ∧
        ∃ keyPrefix, (∃ item, ic.estack[1]? = some item ∧ item.TryBytes = .ok keyPrefix) ∧
        ∃ n, (∃ item, ic.estack[2]? = some item ∧ item.TryInteger = .ok n) ∧
          findOptionsError (bigIntInt64 n) = none ∧
          ic' = { ic with
            estack := .Interop (.iterator ⟨stc.ID, keyPrefix, bigIntInt64 n⟩) :: ic.estack.tail.tail.tail,
            cancelFuncs := ic.cancelFuncs + 1 } := by
  simp only [storageFind, bind_eq_ok, popStorageContext_eq_ok, popBytes_eq_ok, popBigInt_eq_ok,
    returnErr_eq_ok, pushItem_apply, registerCancelFunc_apply]
  simp only [EStateM.Result.ok.injEq, true_and, exists_eq_left', exists_const, and_assoc,
    exists_and_left, exists_eq_left, List.head?_tail, List.getElem?_tail, Nat.reduceAdd, @eq_comm _ ic']

/-! Every failing storage syscall has only popped its arguments. -/

theorem storageDelete_errorPops : ErrorPops storageDelete := by
  have hrest (id : Int) : ErrorPops (popBytes >>= deleteStorageItem id) :=
    ErrorPops.bind PopsOnly.popBytes fun _ => ErrorPops.of_ok fun _ => ⟨_, _, rfl⟩
  exact ErrorPops.bind PopsOnly.popStorageContext fun stc =>
    ErrorPops.ite _ (ErrorPops.bind (PopsOnly.throw _) fun _ => hrest stc.ID)
      (ErrorPops.bind (PopsOnly.pure _) fun _ => hrest stc.ID)

theorem storageGet_errorPops : ErrorPops storageGet :=
  ErrorPops.bind PopsOnly.popStorageContext fun _ => ErrorPops.bind PopsOnly.popBytes fun _ =>
    ErrorPops.of_ok fun _ => ⟨_, _, rfl⟩

theorem storageGetContextInternal_errorPops (isReadOnly : Bool) :
    ErrorPops (storageGetContextInternal env isReadOnly) := by
  unfold storageGetContextInternal
  split
  · exact (PopsOnly.throw _).errorPops
  · exact ErrorPops.of_ok fun _ => ⟨_, _, rfl⟩

theorem putWithContext_errorPops (stc : StorageContext) (key value : Bytes) :
    ErrorPops (putWithContext env stc key value) := fun _ _ _ h =>
  (putWithContext_eq_error h).symm ▸ Popped.refl _

theorem storagePut_errorPops : ErrorPops (storagePut env) :=
  ErrorPops.bind PopsOnly.popStorageContext fun _ => ErrorPops.bind PopsOnly.popBytes fun _ =>
    ErrorPops.bind PopsOnly.popBytes fun _ => putWithContext_errorPops _ _ _

theorem storageContextAsReadOnly_errorPops : ErrorPops storageContextAsReadOnly :=
  ErrorPops.bind PopsOnly.popStorageContext fun _ => ErrorPops.of_ok fun _ => ⟨_, _, rfl⟩

theorem storageFind_errorPops : ErrorPops storageFind :=
  ErrorPops.bind PopsOnly.popStorageContext fun _ => ErrorPops.bind PopsOnly.popBytes fun _ =>
    ErrorPops.bind PopsOnly.popBigInt fun _ => ErrorPops.bind (PopsOnly.returnErr _) fun _ =>
      ErrorPops.of_ok fun _ => ⟨_, _, rfl⟩

end Spec

end neogo.core
