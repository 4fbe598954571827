import Mathlib.Algebra.Order.BigOperators.Group.Finset
import Mathlib.Algebra.Order.Ring.Int
import Mathlib.Logic.Relation

namespace neogo.core

/-- Go's `[]byte`. -/
abbrev Bytes := List UInt8

/-- `util.Uint160`, a script hash. -/
abbrev Uint160 := BitVec 160

/-- `StorageContext` contains storing id and read/write flag; it is the
    capability every storage syscall takes. -/
structure StorageContext where
  ID : Int
  ReadOnly : Bool
deriving DecidableEq, Repr

/-- The iterator `storageFind` pushes. `istorage.NewIterator` wraps the scan
    `DAO.SeekAsync` started, which is determined by the contract ID and the
    prefix it runs over, together with the Find options. -/
structure Iterator where
  seekID : Int
  seekPrefix : Bytes
  opts : BitVec 64
deriving DecidableEq, Repr

/-- The host values the storage syscalls wrap in an `Interop` stack item. -/
inductive InteropValue
  | storageContext (stc : StorageContext)
  | iterator (it : Iterator)
deriving DecidableEq, Repr

/-- The primitive stack items, `Buffer` and the interop handles of the VM's
    evaluation stack. A contract script can push the primitive items and
    buffers itself; it cannot make an `Interop` item, only copy or drop the
    ones a syscall pushed. -/
inductive StackItem
  | Null
  | Bool (b : Bool)
  | BigInteger (i : Int)
  | ByteArray (b : Bytes)
  | Buffer (b : Bytes)
  | Interop (v : InteropValue)
deriving DecidableEq, Repr

namespace bigint

/-- Modelled from the spec: `bigint.FromBytes`, absent from src, the
    little-endian two's complement value of `data`. -/
def FromBytes (data : Bytes) : Int :=
  let unsigned : Int := data.foldr (fun b acc => b.toNat + 256 * acc) 0
  let modulus : Int := data.foldr (fun _ acc => 256 * acc) 1
  if data.getLast?.any (fun b => 128 ≤ b.toNat) then unsigned - modulus else unsigned

/-- Modelled from the spec: `bigint.ToBytes`, absent from src, the shortest
    little-endian two's complement encoding of `n`, empty for zero. -/
def ToBytes (n : Int) : Bytes :=
  if n = 0 then [] else go (n.natAbs + 1) n
where
  go : Nat → Int → Bytes
    | 0, _ => []
    | fuel + 1, n =>
      if (n / 256 = 0 ∧ n % 256 < 128) ∨ (n / 256 = -1 ∧ 128 ≤ n % 256) then
        [(n % 256).toNat.toUInt8]
      else (n % 256).toNat.toUInt8 :: go fuel (n / 256)

end bigint

/-- Modelled from the spec: `stackitem.MaxBigIntegerSizeBits / 8`, the longest
    byte string a VM integer converts from. -/
def maxBigIntegerSizeBytes : Nat := 32

namespace StackItem

/-- Modelled from the spec: `Item.TryBytes`, behind `Element.Bytes()`; the
    `stackitem` package is absent from src. -/
def TryBytes : StackItem → Except String Bytes
  | .ByteArray b => .ok b
  | .Buffer b => .ok b
  | .Bool b => .ok (if b then [1] else [0])
  | .BigInteger i => .ok (bigint.ToBytes i)
  | _ => .error "invalid conversion"

/-- Modelled from the spec: `Item.TryInteger`, behind `Element.BigInt()`; the
    `stackitem` package is absent from src. -/
def TryInteger : StackItem → Except String Int
  | .BigInteger i => .ok i
  | .Bool b => .ok (if b then 1 else 0)
  | .ByteArray b =>
    if b.length > maxBigIntegerSizeBytes then .error "integer is too big" else .ok (bigint.FromBytes b)
  | _ => .error "invalid conversion"

/-- The `%T` of `Element.Value()`, as the syscalls print it in their errors. -/
def valueType : StackItem → String
  | .Null => "<nil>"
  | .Bool _ => "bool"
  | .BigInteger _ => "*big.Int"
  | .ByteArray _ => "[]uint8"
  | .Buffer _ => "[]uint8"
  | .Interop (.storageContext _) => "*core.StorageContext"
  | .Interop (.iterator _) => "*storage.Iterator"

/-- The type assertion `stcInterface.(*StorageContext)`. -/
def storageContext? : StackItem → Option StorageContext
  | .Interop (.storageContext stc) => some stc
  | _ => none

@[simp] theorem storageContext?_eq_some {item : StackItem} {stc : StorageContext} :
    item.storageContext? = some stc ↔ item = .Interop (.storageContext stc) := by
  cases item with
  | Interop v => cases v <;> simp [storageContext?]
  | _ => simp [storageContext?]

end StackItem

/-- The storage items the DAO holds, by contract ID and key; `none` is an
    absent item, distinct from a present empty one. -/
abbrev DAO := Int × Bytes → Option Bytes

/-- `ContractState`, of which the storage syscalls read the ID only. -/
structure ContractState where
  ID : Int
deriving DecidableEq, Repr

/-- What the storage syscalls read through `interop.Context` but never change:
    the executing script, the contract registry, the storage price policy and
    the storage package's size limits. -/
structure Env where
  /-- `ic.VM.GetCurrentScriptHash()`. -/
  currentScriptHash : Uint160
  /-- `ic.GetContract`. -/
  getContract : Uint160 → Except String ContractState
  /-- `ic.Chain.GetPolicer().GetStoragePrice()`. -/
  storagePrice : Int
  /-- `storage.MaxStorageKeyLen`. -/
  maxStorageKeyLen : Nat
  /-- `storage.MaxStorageValueLen`. -/
  maxStorageValueLen : Nat

/-- The parts of `interop.Context` the storage syscalls change. -/
structure Context where
  DAO : DAO
  /-- `ic.VM.Estack()`, top first. -/
  estack : List StackItem
  gasConsumed : Int
  GasLimit : Int
  /-- How many cancel functions `ic.RegisterCancelFunc` holds. -/
  cancelFuncs : Nat

/-- An interop handler, `func(ic *interop.Context) error`. Go mutates the
    context in place, so the state after an error is observable: it is the
    state `EStateM.Result.error` carries. -/
abbrev Interop := EStateM String Context

/-- Modelled from the spec: `ic.VM.Estack().Pop()`, the VM being absent from
    src. Popping an empty stack panics, and the VM turns
    the panic into a fault. -/
def pop : Interop StackItem := fun ic =>
  match ic.estack with
  | [] => .error "empty stack" ic
  | item :: rest => .ok item { ic with estack := rest }

/-- Modelled from the spec: `ic.VM.Estack().PushItem(item)`. -/
def pushItem (item : StackItem) : Interop Unit := fun ic =>
  .ok () { ic with estack := item :: ic.estack }

/-- `Pop().Value()` asserted to be a `*StorageContext`, failing as the
    syscalls do when it is not. -/
def popStorageContext : Interop StorageContext := do
  let item ← pop
  match item.storageContext? with
  | some stc => pure stc
  | none => throw (item.valueType ++ " is not a StorageContext")

/-- Modelled from the spec: `Pop().Bytes()`. -/
def popBytes : Interop Bytes := do
  let item ← pop
  match item.TryBytes with
  | .ok b => pure b
  | .error e => throw e

/-- Modelled from the spec: `Pop().BigInt()`. -/
def popBigInt : Interop Int := do
  let item ← pop
  match item.TryInteger with
  | .ok i => pure i
  | .error e => throw e

/-- Go's `if err != nil { return err }`. -/
def returnErr : Option String → Interop Unit
  | some err => throw err
  | none => pure ()

/-- Modelled from the spec: `ic.DAO.GetStorageItem(id, key)`; the DAO is absent
    from src. -/
def getStorageItem (id : Int) (key : Bytes) : Interop (Option Bytes) := fun ic =>
  .ok (ic.DAO (id, key)) ic

/-- Modelled from the spec: `ic.DAO.PutStorageItem(id, key, si)`. -/
def putStorageItem (id : Int) (key si : Bytes) : Interop Unit := fun ic =>
  .ok () { ic with DAO := Function.update ic.DAO (id, key) (some si) }

/-- Modelled from the spec: `ic.DAO.DeleteStorageItem(id, key)`. -/
def deleteStorageItem (id : Int) (key : Bytes) : Interop Unit := fun ic =>
  .ok () { ic with DAO := Function.update ic.DAO (id, key) none }

/-- Whether the gas meter accepts a charge of `gas` on top of what `ic` has
    consumed; a negative limit never exhausts. -/
def GasAccepts (ic : Context) (gas : Int) : Prop :=
  ic.GasLimit < 0 ∨ ic.gasConsumed + gas ≤ ic.GasLimit

instance (ic : Context) (gas : Int) : Decidable (GasAccepts ic gas) :=
  inferInstanceAs (Decidable (_ ∨ _))

/-- Modelled from the spec: `ic.VM.AddGas(gas)`, absent from src. The meter
    charges `gas` and answers true when it stays within the limit; a charge it
    refuses leaves the meter as it was, and a negative limit never exhausts. -/
def addGas (gas : Int) : Interop Bool := fun ic =>
  if GasAccepts ic gas then .ok true { ic with gasConsumed := ic.gasConsumed + gas }
  else .ok false ic

/-- Modelled from the spec: `ic.RegisterCancelFunc(cancel)`, absent from src;
    the model counts the registered functions. -/
def registerCancelFunc : Interop Unit := fun ic =>
  .ok () { ic with cancelFuncs := ic.cancelFuncs + 1 }

section Bind

variable {ε σ α β : Type} {x : EStateM ε σ α} {f : α → EStateM ε σ β} {s s'' : σ}

theorem bind_eq_ok {b : β} :
    (x >>= f) s = .ok b s'' ↔ ∃ a s', x s = .ok a s' ∧ f a s' = .ok b s'' := by
  show EStateM.bind x f s = _ ↔ _
  unfold EStateM.bind
  cases x s <;> simp [and_assoc]

theorem bind_eq_error {e : ε} :
    (x >>= f) s = .error e s'' ↔
      x s = .error e s'' ∨ ∃ a s', x s = .ok a s' ∧ f a s' = .error e s'' := by
  show EStateM.bind x f s = _ ↔ _
  unfold EStateM.bind
  cases x s <;> simp [and_assoc]

end Bind

/-- The context a handler leaves behind, on either path. -/
def resultContext {α : Type} : EStateM.Result String Context α → Context
  | .ok _ ic => ic
  | .error _ ic => ic

/-- `ic'` is `ic` with some items popped off the evaluation stack and nothing
    else changed. -/
def Popped (ic ic' : Context) : Prop :=
  ∃ n, ic' = { ic with estack := ic.estack.drop n }

theorem Popped.refl (ic : Context) : Popped ic ic := ⟨0, rfl⟩

theorem Popped.dao {ic ic' : Context} (h : Popped ic ic') : ic'.DAO = ic.DAO := by
  obtain ⟨n, rfl⟩ := h
  rfl

theorem Popped.trans {ic₁ ic₂ ic₃ : Context} :
    Popped ic₁ ic₂ → Popped ic₂ ic₃ → Popped ic₁ ic₃ := by
  rintro ⟨m, rfl⟩ ⟨n, rfl⟩
  exact ⟨m + n, by simp [List.drop_drop]⟩

/-- An action that, whatever its outcome, only pops the evaluation stack. -/
def PopsOnly {α : Type} (x : Interop α) : Prop :=
  ∀ ic, Popped ic (resultContext (x ic))

/-- An action that, when it fails, has only popped the evaluation stack. -/
def ErrorPops {α : Type} (x : Interop α) : Prop :=
  ∀ ic e ic', x ic = .error e ic' → Popped ic ic'

section Frame

variable {α β : Type}

theorem PopsOnly.errorPops {x : Interop α} (hx : PopsOnly x) : ErrorPops x := by
  intro ic e ic' h
  simpa [h, resultContext] using hx ic

theorem PopsOnly.bind {x : Interop α} {f : α → Interop β} (hx : PopsOnly x)
    (hf : ∀ a, PopsOnly (f a)) : PopsOnly (x >>= f) := by
  intro ic
  show Popped ic (resultContext (EStateM.bind x f ic))
  have h := hx ic
  unfold EStateM.bind
  cases hr : x ic with
  | ok a ic₁ => exact (by simpa [hr, resultContext] using h : Popped ic ic₁).trans (hf a ic₁)
  | error e ic₁ => simpa [hr, resultContext] using h

theorem ErrorPops.bind {x : Interop α} {f : α → Interop β} (hx : PopsOnly x)
    (hf : ∀ a, ErrorPops (f a)) : ErrorPops (x >>= f) := by
  intro ic e ic' h
  rcases bind_eq_error.1 h with h | ⟨a, ic₁, h₁, h₂⟩
  · exact hx.errorPops ic e ic' h
  · exact (by simpa [h₁, resultContext] using hx ic : Popped ic ic₁).trans (hf a ic₁ e ic' h₂)

theorem ErrorPops.ite (c : Prop) [Decidable c] {x y : Interop α} (hx : ErrorPops x)
    (hy : ErrorPops y) : ErrorPops (if c then x else y) := by
  split
  · exact hx
  · exact hy

/-- An action that never fails has nothing to show on its error path. -/
theorem ErrorPops.of_ok {x : Interop α} (hx : ∀ ic, ∃ a ic', x ic = .ok a ic') : ErrorPops x := by
  intro ic e ic' h
  obtain ⟨a, ic'', h'⟩ := hx ic
  rw [h] at h'
  cases h'

theorem PopsOnly.pure (a : α) : PopsOnly (pure a : Interop α) := fun ic => Popped.refl ic

theorem PopsOnly.throw (e : String) : PopsOnly (throw e : Interop α) := fun ic => Popped.refl ic

theorem PopsOnly.returnErr (err? : Option String) : PopsOnly (returnErr err?) := by
  cases err? with
  | some err => exact PopsOnly.throw err
  | none => exact PopsOnly.pure ()

theorem PopsOnly.pop : PopsOnly pop := by
  intro ic
  unfold neogo.core.pop
  cases h : ic.estack with
  | nil => exact Popped.refl ic
  | cons item rest => exact ⟨1, by simp [h, resultContext]⟩

theorem PopsOnly.popStorageContext : PopsOnly popStorageContext :=
  PopsOnly.pop.bind fun item => by
    cases item.storageContext? <;> first | exact PopsOnly.pure _ | exact PopsOnly.throw _

theorem PopsOnly.popBytes : PopsOnly popBytes :=
  PopsOnly.pop.bind fun item => by
    cases item.TryBytes <;> first | exact PopsOnly.pure _ | exact PopsOnly.throw _

theorem PopsOnly.popBigInt : PopsOnly popBigInt :=
  PopsOnly.pop.bind fun item => by
    cases item.TryInteger <;> first | exact PopsOnly.pure _ | exact PopsOnly.throw _

end Frame

section Spec

variable {α β : Type} {ic ic' : Context}

@[simp] theorem throw_apply (e : String) : (throw e : Interop α) ic = .error e ic := rfl

@[simp] theorem pure_apply (a : α) : (pure a : Interop α) ic = .ok a ic := rfl

@[simp] theorem throw_bind_apply (e : String) (f : α → Interop β) :
    (throw e >>= f) ic = .error e ic := rfl

theorem ite_apply_ctx (c : Prop) [Decidable c] (x y : Interop α) :
    (if c then x else y) ic = if c then x ic else y ic := by
  split <;> rfl

theorem returnErr_eq_ok {err? : Option String} {u : Unit} :
    returnErr err? ic = .ok u ic' ↔ err? = none ∧ ic' = ic := by
  cases err? <;> simp [returnErr, eq_comm]

@[simp] theorem pushItem_apply (item : StackItem) :
    pushItem item ic = .ok () { ic with estack := item :: ic.estack } := rfl

@[simp] theorem getStorageItem_apply (id : Int) (key : Bytes) :
    getStorageItem id key ic = .ok (ic.DAO (id, key)) ic := rfl

@[simp] theorem putStorageItem_apply (id : Int) (key si : Bytes) :
    putStorageItem id key si ic =
      .ok () { ic with DAO := Function.update ic.DAO (id, key) (some si) } := rfl

@[simp] theorem deleteStorageItem_apply (id : Int) (key : Bytes) :
    deleteStorageItem id key ic = .ok () { ic with DAO := Function.update ic.DAO (id, key) none } :=
  rfl

@[simp] theorem registerCancelFunc_apply :
    registerCancelFunc ic = .ok () { ic with cancelFuncs := ic.cancelFuncs + 1 } := rfl

theorem addGas_apply (gas : Int) :
    addGas gas ic = if GasAccepts ic gas then
      .ok true { ic with gasConsumed := ic.gasConsumed + gas } else .ok false ic := rfl

theorem pop_eq_ok {item : StackItem} :
    pop ic = .ok item ic' ↔
      ic.estack.head? = some item ∧ ic' = { ic with estack := ic.estack.tail } := by
  unfold pop
  cases ic.estack <;> simp [eq_comm]

theorem popStorageContext_eq_ok {stc : StorageContext} :
    popStorageContext ic = .ok stc ic' ↔
      ic.estack.head? = some (.Interop (.storageContext stc)) ∧
        ic' = { ic with estack := ic.estack.tail } := by
  simp only [popStorageContext, bind_eq_ok, pop_eq_ok]
  constructor
  · rintro ⟨item, _, ⟨hhead, rfl⟩, h⟩
    cases hitem : item.storageContext? <;> simp only [hitem] at h <;> cases h
    exact ⟨by simpa [StackItem.storageContext?_eq_some.1 hitem] using hhead, rfl⟩
  · rintro ⟨hhead, rfl⟩
    exact ⟨_, _, ⟨hhead, rfl⟩, rfl⟩

theorem popBytes_eq_ok {b : Bytes} :
    popBytes ic = .ok b ic' ↔
      (∃ item, ic.estack.head? = some item ∧ item.TryBytes = .ok b) ∧
        ic' = { ic with estack := ic.estack.tail } := by
  simp only [popBytes, bind_eq_ok, pop_eq_ok]
  constructor
  · rintro ⟨item, _, ⟨hhead, rfl⟩, h⟩
    cases hitem : item.TryBytes <;> simp only [hitem] at h <;> cases h
    exact ⟨⟨item, hhead, hitem⟩, rfl⟩
  · rintro ⟨⟨item, hhead, hitem⟩, rfl⟩
    exact ⟨item, _, ⟨hhead, rfl⟩, by simp [hitem]⟩

theorem popBigInt_eq_ok {i : Int} :
    popBigInt ic = .ok i ic' ↔
      (∃ item, ic.estack.head? = some item ∧ item.TryInteger = .ok i) ∧
        ic' = { ic with estack := ic.estack.tail } := by
  simp only [popBigInt, bind_eq_ok, pop_eq_ok]
  constructor
  · rintro ⟨item, _, ⟨hhead, rfl⟩, h⟩
    cases hitem : item.TryInteger <;> simp only [hitem] at h <;> cases h
    exact ⟨⟨item, hhead, hitem⟩, rfl⟩
  · rintro ⟨⟨item, hhead, hitem⟩, rfl⟩
    exact ⟨item, _, ⟨hhead, rfl⟩, by simp [hitem]⟩

end Spec

end neogo.core
