import NeoNode.Core.Interop.Storage

namespace neogo.core

/-- The `System.Storage.*` syscalls a contract can make. -/
inductive Syscall
  | getContext
  | getReadOnlyContext
  | asReadOnly
  | get
  | put
  | delete
  | find
deriving DecidableEq, Repr

/-- The interop handler each syscall dispatches to. -/
def Syscall.handler (env : Env) : Syscall → Interop Unit
  | .getContext => storageGetContext env
  | .getReadOnlyContext => storageGetReadOnlyContext env
  | .asReadOnly => storageContextAsReadOnly
  | .get => storageGet
  | .put => storagePut env
  | .delete => storageDelete
  | .find => storageFind

/-- The contract's own code between two syscalls. Its opcodes push primitive
    items or buffers, copy, move or drop items already on the stack, and pay
    gas; none of
    them makes an interop handle, touches storage or registers a cancel
    function. -/
def ScriptMove (ic ic' : Context) : Prop :=
  ic'.DAO = ic.DAO ∧ ic'.GasLimit = ic.GasLimit ∧ ic'.cancelFuncs = ic.cancelFuncs ∧
    ic.gasConsumed ≤ ic'.gasConsumed ∧
    ∀ v, StackItem.Interop v ∈ ic'.estack → StackItem.Interop v ∈ ic.estack

/-- One step of an invocation: a stretch of script, or a storage syscall that
    succeeds (a failing one faults the invocation). -/
inductive Step (env : Env) : Context → Context → Prop
  | script {ic ic' : Context} : ScriptMove ic ic' → Step env ic ic'
  | syscall {ic ic' : Context} (s : Syscall) : s.handler env ic = .ok () ic' → Step env ic ic'

/-- The entry `k` is written by the step from `ic` to `ic'`: it is a successful
    `storagePut` or `storageDelete` through a writable context on top of the
    stack, and `k` is that context's ID with the key below it. -/
def WritesEntry (env : Env) (k : Int × Bytes) (ic ic' : Context) : Prop :=
  ∃ s : Syscall, (s = .put ∨ s = .delete) ∧ s.handler env ic = .ok () ic' ∧
    ∃ stc key, ic.estack.head? = some (.Interop (.storageContext stc)) ∧ stc.ReadOnly = false ∧
      (∃ item, ic.estack[1]? = some item ∧ item.TryBytes = .ok key) ∧ k = (stc.ID, key)

/-- Where a storage context on the stack of an invocation that started at
    `ic₀` comes from: it was on the stack at the start, it was made during the
    invocation from the executing contract's registry entry, or it is a
    read-only narrowing of one that was on the stack at the start. -/
def ContextFrom (env : Env) (ic₀ : Context) (stc : StorageContext) : Prop :=
  StackItem.Interop (.storageContext stc) ∈ ic₀.estack ∨
    (∃ c, env.getContract env.currentScriptHash = .ok c ∧ stc.ID = c.ID) ∨
    stc.ReadOnly = true ∧
      ∃ stc₀, StackItem.Interop (.storageContext stc₀) ∈ ic₀.estack ∧ stc.ID = stc₀.ID

/-- A step of the invocation that does not write the entry `k`. -/
def StepKeeping (env : Env) (k : Int × Bytes) (ic ic' : Context) : Prop :=
  Step env ic ic' ∧ ¬ WritesEntry env k ic ic'

section Steps

variable {env : Env} {ic ic' : Context}

theorem Syscall.errorPops (s : Syscall) : ErrorPops (s.handler env) := by
  cases s with
  | getContext => exact storageGetContextInternal_errorPops false
  | getReadOnlyContext => exact storageGetContextInternal_errorPops true
  | asReadOnly => exact storageContextAsReadOnly_errorPops
  | get => exact storageGet_errorPops
  | put => exact storagePut_errorPops
  | delete => exact storageDelete_errorPops
  | find => exact storageFind_errorPops

/-- A failing syscall leaves the store as it was. -/
theorem Syscall.dao_of_eq_error {s : Syscall} {e : String} (h : s.handler env ic = .error e ic') :
    ic'.DAO = ic.DAO :=
  (s.errorPops ic e ic' h).dao

/-- What a successful syscall does to the store: only a put or a delete through
    a writable context on top of the stack changes it, and only at the entry it
    addresses. -/
theorem Syscall.dao_frame {s : Syscall} (h : s.handler env ic = .ok () ic') {k : Int × Bytes}
    (hk : ic'.DAO k ≠ ic.DAO k) : WritesEntry env k ic ic' := by
  cases s with
  | getContext =>
    obtain ⟨c, -, rfl⟩ := (storageGetContextInternal_eq_ok false).1 h
    exact absurd rfl hk
  | getReadOnlyContext =>
    obtain ⟨c, -, rfl⟩ := (storageGetContextInternal_eq_ok true).1 h
    exact absurd rfl hk
  | asReadOnly =>
    obtain ⟨stc, -, rfl⟩ := storageContextAsReadOnly_eq_ok.1 h
    exact absurd rfl hk
  | get =>
    obtain ⟨stc, -, key, -, rfl⟩ := storageGet_eq_ok.1 h
    exact absurd rfl hk
  | find =>
    obtain ⟨stc, -, p, -, n, -, -, rfl⟩ := storageFind_eq_ok.1 h
    exact absurd rfl hk
  | delete =>
    obtain ⟨stc, hhead, hro, key, hkey, rfl⟩ := storageDelete_eq_ok.1 h
    by_cases hkey' : k = (stc.ID, key)
    · exact ⟨.delete, .inr rfl, h, stc, key, hhead, hro, hkey, hkey'⟩
    · exact absurd (Function.update_noteq hkey' _ _) hk
  | put =>
    obtain ⟨stc, hhead, key, hkey, value, -, hput⟩ := storagePut_eq_ok.1 h
    obtain ⟨hro, gas, rfl⟩ := putWithContext_eq_ok hput
    by_cases hkey' : k = (stc.ID, key)
    · exact ⟨.put, .inl rfl, h, stc, key, hhead, hro, hkey, hkey'⟩
    · exact absurd (Function.update_noteq hkey' _ _) hk

/-- Where a storage context on the stack after a successful syscall comes
    from: it was there before, or the executing contract's registry entry gave
    its ID to a fresh context (a writable one only through `storageGetContext`),
    or `storageContextAsReadOnly` narrowed one that was there. -/
theorem Syscall.context_origin {s : Syscall} (h : s.handler env ic = .ok () ic')
    {stc : StorageContext} (hmem : StackItem.Interop (.storageContext stc) ∈ ic'.estack) :
    StackItem.Interop (.storageContext stc) ∈ ic.estack ∨
      (∃ c, env.getContract env.currentScriptHash = .ok c ∧ stc.ID = c.ID ∧
        (stc.ReadOnly = false → s = .getContext)) ∨
      ∃ stc₀, StackItem.Interop (.storageContext stc₀) ∈ ic.estack ∧
        stc = ⟨stc₀.ID, true⟩ := by
  cases s with
  | getContext =>
    obtain ⟨c, hc, rfl⟩ := (storageGetContextInternal_eq_ok false).1 h
    rcases List.mem_cons.1 hmem with heq | hold
    · cases heq
      exact .inr (.inl ⟨c, hc, rfl, fun _ => rfl⟩)
    · exact .inl hold
  | getReadOnlyContext =>
    obtain ⟨c, hc, rfl⟩ := (storageGetContextInternal_eq_ok true).1 h
    rcases List.mem_cons.1 hmem with heq | hold
    · cases heq
      exact .inr (.inl ⟨c, hc, rfl, Bool.noConfusion⟩)
    · exact .inl hold
  | asReadOnly =>
    obtain ⟨stc₀, hhead, rfl⟩ := storageContextAsReadOnly_eq_ok.1 h
    rcases List.mem_cons.1 hmem with heq | hold
    · cases heq
      exact .inr (.inr ⟨stc₀, List.mem_of_mem_head? hhead, rfl⟩)
    · exact .inl (List.mem_of_mem_tail hold)
  | get =>
    obtain ⟨stc₀, -, key, -, rfl⟩ := storageGet_eq_ok.1 h
    rcases List.mem_cons.1 hmem with heq | hold
    · cases h : ic.DAO (stc₀.ID, key) <;> simp [h, StackItem.ofStorageItem] at heq
    · exact .inl (List.mem_of_mem_tail (List.mem_of_mem_tail hold))
  | put =>
    obtain ⟨stc₀, -, key, -, value, -, hput⟩ := storagePut_eq_ok.1 h
    obtain ⟨-, gas, rfl⟩ := putWithContext_eq_ok hput
    exact .inl (List.mem_of_mem_tail (List.mem_of_mem_tail (List.mem_of_mem_tail hmem)))
  | delete =>
    obtain ⟨stc₀, -, -, key, -, rfl⟩ := storageDelete_eq_ok.1 h
    exact .inl (List.mem_of_mem_tail (List.mem_of_mem_tail hmem))
  | find =>
    obtain ⟨stc₀, -, p, -, n, -, -, rfl⟩ := storageFind_eq_ok.1 h
    rcases List.mem_cons.1 hmem with heq | hold
    · cases heq
    · exact .inl (List.mem_of_mem_tail (List.mem_of_mem_tail (List.mem_of_mem_tail hold)))

/-- No syscall makes a read-only context writable: a writable context on the
    stack after a successful syscall was there before, or the syscall is
    `storageGetContext`. -/
theorem Syscall.writable_origin {s : Syscall} (h : s.handler env ic = .ok () ic')
    {stc : StorageContext} (hmem : StackItem.Interop (.storageContext stc) ∈ ic'.estack)
    (hw : stc.ReadOnly = false) :
    StackItem.Interop (.storageContext stc) ∈ ic.estack ∨ s = .getContext := by
  rcases Syscall.context_origin h hmem with hold | ⟨-, -, -, hget⟩ | ⟨stc₀, -, rfl⟩
  · exact .inl hold
  · exact .inr (hget hw)
  · cases hw

/-- Every step keeps the provenance of the storage contexts on the stack. -/
theorem Step.contextFrom {ic₀ : Context} (hstep : Step env ic ic')
    (h : ∀ stc, StackItem.Interop (.storageContext stc) ∈ ic.estack → ContextFrom env ic₀ stc) :
    ∀ stc, StackItem.Interop (.storageContext stc) ∈ ic'.estack → ContextFrom env ic₀ stc := by
  intro stc hmem
  cases hstep with
  | script hmove => exact h stc (hmove.2.2.2.2 _ hmem)
  | syscall s hs =>
    rcases Syscall.context_origin hs hmem with hold | ⟨c, hc, hid, -⟩ | ⟨stc₀, hold, rfl⟩
    · exact h stc hold
    · exact .inr (.inl ⟨c, hc, hid⟩)
    · -- a narrowing keeps the ID of the context it narrows
      rcases h stc₀ hold with h₀ | hreg | ⟨-, stc₁, h₁, hid⟩
      · exact .inr (.inr ⟨rfl, stc₀, h₀, rfl⟩)
      · exact .inr (.inl hreg)
      · exact .inr (.inr ⟨rfl, stc₁, h₁, hid⟩)

theorem Step.dao_frame (hstep : Step env ic ic') {k : Int × Bytes} (hk : ic'.DAO k ≠ ic.DAO k) :
    WritesEntry env k ic ic' := by
  cases hstep with
  | script hmove => exact absurd (congrFun hmove.1 k) hk
  | syscall s hs => exact Syscall.dao_frame hs hk

end Steps

section Runs

open Relation

variable {env : Env} {ic₀ ic : Context}

theorem contextFrom_of_run (hrun : ReflTransGen (Step env) ic₀ ic) :
    ∀ stc, StackItem.Interop (.storageContext stc) ∈ ic.estack → ContextFrom env ic₀ stc := by
  induction hrun with
  | refl => exact fun _ h => .inl h
  | tail _ hstep ih => exact hstep.contextFrom ih

/-- An entry that differs from the invocation's start was written by one of
    its steps. -/
theorem run_writesEntry (hrun : ReflTransGen (Step env) ic₀ ic) {k : Int × Bytes}
    (hk : ic.DAO k ≠ ic₀.DAO k) :
    ∃ ic₁ ic₂, ReflTransGen (Step env) ic₀ ic₁ ∧ WritesEntry env k ic₁ ic₂ ∧
      ReflTransGen (Step env) ic₂ ic := by
  induction hrun with
  | refl => exact absurd rfl hk
  | @tail b c hprefix hstep ih =>
    by_cases hb : b.DAO k = ic₀.DAO k
    · exact ⟨b, c, hprefix, hstep.dao_frame (hb ▸ hk), .refl⟩
    · obtain ⟨ic₁, ic₂, h₁, hw, h₂⟩ := ih hb
      exact ⟨ic₁, ic₂, h₁, hw, h₂.tail hstep⟩

/-- Over every run of an invocation, from any stack: every storage context on
    the stack was there at the start, was made from the executing contract's
    registry entry, or narrows a starting one to read-only; from any reachable
    state `storageContextAsReadOnly` keeps the ID and sets ReadOnly, no syscall
    makes a read-only context writable, and a successful syscall changes the
    store only as a put or a delete through a writable context at the entry it
    addresses; every entry that differs from the start was so written by a
    step of the run, through a writable context that was on the stack at the
    start or was made for the executing contract; and a failing syscall leaves
    the store as it was. -/
theorem storage_invocation_frame (hrun : ReflTransGen (Step env) ic₀ ic) :
    (∀ stc, StackItem.Interop (.storageContext stc) ∈ ic.estack → ContextFrom env ic₀ stc) ∧
    (∀ ic', storageContextAsReadOnly ic = .ok () ic' →
      ∃ stc, ic.estack.head? = some (.Interop (.storageContext stc)) ∧
        ic'.estack = .Interop (.storageContext ⟨stc.ID, true⟩) :: ic.estack.tail) ∧
    (∀ (s : Syscall) ic', s.handler env ic = .ok () ic' →
      (∀ stc, StackItem.Interop (.storageContext stc) ∈ ic'.estack → stc.ReadOnly = false →
        StackItem.Interop (.storageContext stc) ∈ ic.estack ∨ s = .getContext) ∧
      ∀ k, ic'.DAO k ≠ ic.DAO k → WritesEntry env k ic ic') ∧
    (∀ k, ic.DAO k ≠ ic₀.DAO k →
      (∃ ic₁ ic₂, ReflTransGen (Step env) ic₀ ic₁ ∧ WritesEntry env k ic₁ ic₂ ∧
        ReflTransGen (Step env) ic₂ ic) ∧
      ∃ stc, stc.ReadOnly = false ∧ k.1 = stc.ID ∧ ContextFrom env ic₀ stc) ∧
    ∀ (s : Syscall) e ic', s.handler env ic = .error e ic' → ic'.DAO = ic.DAO := by
  refine ⟨contextFrom_of_run hrun, fun ic' h => ?_,
    fun s ic' h => ⟨fun stc => Syscall.writable_origin h, fun k => Syscall.dao_frame h⟩,
    fun k hk => ⟨run_writesEntry hrun hk, ?_⟩, fun s e ic' => Syscall.dao_of_eq_error⟩
  · obtain ⟨stc, hhead, rfl⟩ := storageContextAsReadOnly_eq_ok.1 h
    exact ⟨stc, hhead, rfl⟩
  · -- the write's context was on the stack when it ran, so it has a provenance
    obtain ⟨ic₁, -, h₁, ⟨-, -, -, stc, key, hhead, hro, -, rfl⟩, -⟩ := run_writesEntry hrun hk
    exact ⟨stc, hro, rfl, contextFrom_of_run h₁ stc (List.mem_of_mem_head? hhead)⟩

/-- Contract 1 executes; storage costs one unit per byte, keys are up to 64
    bytes long and values up to 65535. -/
def contractOneEnv : Env := ⟨0, fun _ => .ok ⟨1⟩, 1, 64, 65535⟩

/-- A frame of contract 1 whose caller handed it contract 2's writable
    context, with key `[1]` and value `[2]` below it. -/
def callerContextFrame : Context :=
  ⟨fun _ => none, [.Interop (.storageContext ⟨2, false⟩), .ByteArray [1], .ByteArray [2]], 0, -1, 0⟩

/-- `callerContextFrame` after its put through contract 2's context. -/
def callerContextPut : Context :=
  ⟨Function.update (fun _ => none) (2, [1]) (some [2]), [], 2, -1, 0⟩

/-- Contract 1 writes contract 2's entry through the context its caller
    handed it: the store changes only there, through a context from the
    start. -/
theorem storage_invocation_frame_callerContext :
    (∀ stc, StackItem.Interop (.storageContext stc) ∈ callerContextPut.estack →
      ContextFrom contractOneEnv callerContextFrame stc) ∧
    (∀ ic', storageContextAsReadOnly callerContextPut = .ok () ic' →
      ∃ stc, callerContextPut.estack.head? = some (.Interop (.storageContext stc)) ∧
        ic'.estack = .Interop (.storageContext ⟨stc.ID, true⟩) :: callerContextPut.estack.tail) ∧
    (∀ (s : Syscall) ic', s.handler contractOneEnv callerContextPut = .ok () ic' →
      (∀ stc, StackItem.Interop (.storageContext stc) ∈ ic'.estack → stc.ReadOnly = false →
        StackItem.Interop (.storageContext stc) ∈ callerContextPut.estack ∨ s = .getContext) ∧
      ∀ k, ic'.DAO k ≠ callerContextPut.DAO k → WritesEntry contractOneEnv k callerContextPut ic') ∧
    (∀ k, callerContextPut.DAO k ≠ callerContextFrame.DAO k →
      (∃ ic₁ ic₂, ReflTransGen (Step contractOneEnv) callerContextFrame ic₁ ∧
        WritesEntry contractOneEnv k ic₁ ic₂ ∧ ReflTransGen (Step contractOneEnv) ic₂ callerContextPut) ∧
      ∃ stc, stc.ReadOnly = false ∧ k.1 = stc.ID ∧ ContextFrom contractOneEnv callerContextFrame stc) ∧
    ∀ (s : Syscall) e ic', s.handler contractOneEnv callerContextPut = .error e ic' →
      ic'.DAO = callerContextPut.DAO :=
  storage_invocation_frame (.single (.syscall .put rfl))

/-- A run of steps none of which writes the entry `k` leaves it as it was. -/
theorem keeping_run_dao {k : Int × Bytes} (hrun : ReflTransGen (StepKeeping env k) ic₀ ic) :
    ic.DAO k = ic₀.DAO k := by
  induction hrun with
  | refl => rfl
  | tail _ hstep ih =>
    rw [← ih]
    by_contra hne
    exact hstep.2 (hstep.1.dao_frame hne)

/-- Read-your-writes: after a successful put of `value` on `key`, and any run
    in which no step writes that entry again, a get on `key` through any
    context of the same contract pushes `value`. -/
theorem storageGet_after_storagePut {ic₁ : Context} {stc stc' : StorageContext}
    {key value : Bytes} {rest rest' : List StackItem}
    (hstack : ic₀.estack =
      .Interop (.storageContext stc) :: .ByteArray key :: .ByteArray value :: rest)
    (hput : storagePut env ic₀ = .ok () ic₁)
    (hrun : ReflTransGen (StepKeeping env (stc.ID, key)) ic₁ ic)
    (hid : stc'.ID = stc.ID)
    (hget : ic.estack = .Interop (.storageContext stc') :: .ByteArray key :: rest') :
    storageGet ic = .ok () { ic with estack := .ByteArray value :: rest' } := by
  obtain ⟨stc₀, hhead, key₀, ⟨_, hk, hkey⟩, value₀, ⟨_, hv, hvalue⟩, hwrite⟩ :=
    storagePut_eq_ok.1 hput
  simp only [hstack, List.head?_cons, Option.some.injEq, StackItem.Interop.injEq,
    InteropValue.storageContext.injEq, List.getElem?_cons_succ, List.getElem?_cons_zero] at hhead hk hv
  subst hhead hk hv
  cases hkey
  cases hvalue
  obtain ⟨-, gas, rfl⟩ := putWithContext_eq_ok hwrite
  have hdao : ic.DAO (stc.ID, key) = some value :=
    (keeping_run_dao hrun).trans (Function.update_same _ _ _)
  exact storageGet_eq_ok.2 ⟨stc', by simp [hget], key, ⟨.ByteArray key, by simp [hget], rfl⟩,
    by simp [hget, hid, hdao, StackItem.ofStorageItem]⟩

/-- Contract 1 puts `[2]` at key `[1]` through its own writable context,
    leaving the key `[1]` on the stack for a later get. -/
def ownerPutFrame : Context :=
  ⟨fun _ => none, [.Interop (.storageContext ⟨1, false⟩), .ByteArray [1], .ByteArray [2],
    .ByteArray [1]], 0, -1, 0⟩

/-- The put, then `storageGetReadOnlyContext` (which writes nothing), then a
    get through the read-only context. -/
theorem storageGet_after_storagePut_readOnly :
    storageGet ⟨Function.update (fun _ => none) (1, [1]) (some [2]),
        [.Interop (.storageContext ⟨1, true⟩), .ByteArray [1]], 2, -1, 0⟩ =
      .ok () ⟨Function.update (fun _ => none) (1, [1]) (some [2]), [.ByteArray [2]], 2, -1, 0⟩ :=
  have hkeep : StepKeeping contractOneEnv (1, [1])
      ⟨Function.update (fun _ => none) (1, [1]) (some [2]), [.ByteArray [1]], 2, -1, 0⟩
      ⟨Function.update (fun _ => none) (1, [1]) (some [2]),
        [.Interop (.storageContext ⟨1, true⟩), .ByteArray [1]], 2, -1, 0⟩ :=
    ⟨.syscall .getReadOnlyContext rfl, fun ⟨_, _, _, _, _, hhead, _⟩ => by simp at hhead⟩
  @storageGet_after_storagePut contractOneEnv ownerPutFrame _ _ ⟨1, false⟩ ⟨1, true⟩ [1] [2]
    [.ByteArray [1]] [] rfl rfl (.single hkeep) rfl rfl

end Runs

end neogo.core
