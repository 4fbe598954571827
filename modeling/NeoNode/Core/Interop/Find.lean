import NeoNode.Core.Interop.Storage

namespace neogo.core

/-- Whether the option value `n`, read as a bit-set, holds `flag`. -/
def hasFlag (n : Int) (flag : BitVec 64) : Prop := n.toNat &&& flag.toNat ≠ 0

instance (n : Int) (flag : BitVec 64) : Decidable (hasFlag n flag) :=
  inferInstanceAs (Decidable (_ ≠ _))

/-- The Find option values the spec admits, as integers: a set of known flags
    (between 0 and `FindAll`, no bit outside it) in which KeysOnly excludes
    Deserialize, Pick0 and Pick1, ValuesOnly excludes KeysOnly and RemovePrefix,
    Pick0 excludes Pick1, and Pick0 or Pick1 requires Deserialize. -/
def FindOptionsValid (n : Int) : Prop :=
  0 ≤ n ∧ n ≤ FindAll.toNat ∧ n.toNat ||| FindAll.toNat = FindAll.toNat ∧
    (hasFlag n FindKeysOnly →
      ¬ hasFlag n FindDeserialize ∧ ¬ hasFlag n FindPick0 ∧ ¬ hasFlag n FindPick1) ∧
    (hasFlag n FindValuesOnly → ¬ hasFlag n FindKeysOnly ∧ ¬ hasFlag n FindRemovePrefix) ∧
    (hasFlag n FindPick0 → ¬ hasFlag n FindPick1) ∧
    (hasFlag n FindPick0 ∨ hasFlag n FindPick1 → hasFlag n FindDeserialize)

instance (n : Int) : Decidable (FindOptionsValid n) :=
  inferInstanceAs (Decidable (_ ∧ _ ∧ _ ∧ _ ∧ _ ∧ _ ∧ _))

/-- An option word that passes the unknown-flag check is below 64. -/
theorem toNat_lt_of_and_not_findAll {x : BitVec 64} (h : x &&& ~~~FindAll = 0) : x.toNat < 64 := by
  have hx : x = x &&& FindAll := by
    ext i
    have hi := congrArg (fun y => y.getLsbD i) h
    simp only [BitVec.getLsbD_and, BitVec.getLsbD_not, BitVec.getLsbD_zero, i.isLt, decide_True,
      Bool.true_and] at hi
    cases hb : x.getLsbD i <;> cases hf : FindAll.getLsbD i <;> simp_all
  rw [hx, BitVec.toNat_and, show FindAll.toNat = 2 ^ 6 - 1 from rfl, Nat.and_pow_two_sub_one_eq_mod]
  omega

/-- Every word of 64 or more is refused as holding an unknown flag. -/
theorem findOptionsError_of_le_toNat {x : BitVec 64} (hx : 64 ≤ x.toNat) :
    findOptionsError x = some (errFindInvalidOptions ++ ": unknown flag") := by
  have h : x &&& ~~~FindAll ≠ 0 := fun h => absurd (toNat_lt_of_and_not_findAll h) (by omega)
  rw [findOptionsError, if_pos h]

/-- Below 64 the five checks accept exactly the spec's valid flag sets. -/
theorem findOptionsError_eq_none_iff_small :
    ∀ k : Fin 64, findOptionsError (BitVec.ofNat 64 k) = none ↔ FindOptionsValid k := by
  decide

/-- Every error of the checks is an `errFindInvalidOptions` error. -/
theorem findOptionsError_eq_some {x : BitVec 64} {err : String} (h : findOptionsError x = some err) :
    ∃ msg, err = errFindInvalidOptions ++ msg := by
  unfold findOptionsError at h
  split_ifs at h <;> cases h <;> exact ⟨_, rfl⟩

/-- Within the int64 range the option checks accept exactly the spec's valid
    flag sets. -/
theorem findOptionsError_eq_none_iff {n : Int} (hlo : -2 ^ 63 ≤ n) (hhi : n < 2 ^ 63) :
    findOptionsError (bigIntInt64 n) = none ↔ FindOptionsValid n := by
  by_cases hsmall : 0 ≤ n ∧ n < 64
  · obtain ⟨k, rfl⟩ := Int.eq_ofNat_of_zero_le hsmall.1
    have hk : bigIntInt64 k = BitVec.ofNat 64 k := by
      apply BitVec.eq_of_toNat_eq
      rw [bigIntInt64, BitVec.toNat_ofInt, BitVec.toNat_ofNat]
      omega
    rw [hk]
    exact findOptionsError_eq_none_iff_small ⟨k, by omega⟩
  · have hbits : (bigIntInt64 n).toNat = (n % ↑(2 ^ 64 : Nat)).toNat := BitVec.toNat_ofInt n
    rw [findOptionsError_of_le_toNat (by omega)]
    simp only [FindOptionsValid, show (FindAll.toNat : Int) = 63 from rfl]
    constructor
    · intro h; cases h
    · intro h; omega

theorem storageFind_of_estack {ic : Context} {stc : StorageContext} {keyPrefix : Bytes} {n : Int}
    {rest : List StackItem}
    (hstack : ic.estack =
      .Interop (.storageContext stc) :: .ByteArray keyPrefix :: .BigInteger n :: rest) :
    storageFind ic = (returnErr (findOptionsError (bigIntInt64 n)) >>= fun _ =>
      pushItem (.Interop (.iterator ⟨stc.ID, keyPrefix, bigIntInt64 n⟩)) >>= fun _ =>
        registerCancelFunc)
        { ic with estack := rest } := by
  obtain ⟨dao, estack, gas, limit, cancels⟩ := ic
  cases hstack
  rfl

/-- For an option argument in the int64 range, `storageFind` succeeds exactly
    on the spec's valid flag sets: then it pushes one iterator over the
    context's contract and the prefix, and registers one cancel function;
    otherwise it fails with an `errFindInvalidOptions` error having only
    popped its arguments, with no iterator pushed and no cancel function
    registered. -/
theorem storageFind_int64_options {ic : Context} {stc : StorageContext} {keyPrefix : Bytes} {n : Int}
    {rest : List StackItem}
    (hstack : ic.estack =
      .Interop (.storageContext stc) :: .ByteArray keyPrefix :: .BigInteger n :: rest)
    (hlo : -2 ^ 63 ≤ n) (hhi : n < 2 ^ 63) :
    (FindOptionsValid n → storageFind ic = .ok () { ic with
      estack := .Interop (.iterator ⟨stc.ID, keyPrefix, bigIntInt64 n⟩) :: rest,
      cancelFuncs := ic.cancelFuncs + 1 }) ∧
    (¬ FindOptionsValid n →
      ∃ msg, storageFind ic = .error (errFindInvalidOptions ++ msg) { ic with estack := rest }) := by
  rw [storageFind_of_estack hstack, ← findOptionsError_eq_none_iff hlo hhi]
  constructor
  · intro h
    simp only [h, returnErr, pure_bind]
    rfl
  · intro h
    obtain ⟨err, herr⟩ := Option.ne_none_iff_exists'.1 h
    obtain ⟨msg, rfl⟩ := findOptionsError_eq_some herr
    exact ⟨msg, by simp [herr, returnErr]⟩

theorem storageFind_int64_options_keysOnly :
    storageFind
        ⟨fun _ => none, [.Interop (.storageContext ⟨1, false⟩), .ByteArray [1], .BigInteger 1], 0, -1, 0⟩ =
      .ok () ⟨fun _ => none, [.Interop (.iterator ⟨1, [1], bigIntInt64 1⟩)], 0, -1, 1⟩ :=
  (@storageFind_int64_options
    ⟨fun _ => none, [.Interop (.storageContext ⟨1, false⟩), .ByteArray [1],
    .BigInteger 1], 0, -1, 0⟩ _ _ _ _ rfl (by decide) (by decide)).1 (by decide)

/-- `BigInt().Int64()` keeps only the low 64 bits of the option argument, so
    `2^64 + 1`, which is no set of known flags, passes every check as
    KeysOnly: the call starts a scan and pushes its iterator. -/
theorem storageFind_accepts_two_pow_64_add_one :
    ¬ FindOptionsValid (2 ^ 64 + 1) ∧
    storageFind ⟨fun _ => none,
        [.Interop (.storageContext ⟨1, false⟩), .ByteArray [1], .BigInteger (2 ^ 64 + 1)], 0, -1, 0⟩ =
      .ok () ⟨fun _ => none, [.Interop (.iterator ⟨1, [1], FindKeysOnly⟩)], 0, -1, 1⟩ :=
  ⟨by decide, rfl⟩

end neogo.core
