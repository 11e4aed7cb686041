import Tos.Unicode
/-!
# API test の値の検査と、test の値の生成

`lib/assertions.py` の検査 `assert_valid_hash`・`assert_valid_address`・`assert_positive_integer` と、
`lib/fixtures.py` の生成 `generate_test_address`・`generate_test_hash`・`generate_test_transaction`、
`config.py` の既定値と `TestConfig.validate` を書く。

* `assert cond, msg` は、通れば `.ok ()`、通らなければ `msg` を持つ `.error` である（`pyAssert`）。
  `isinstance` の検査は、値の型が決まっているので書かない。
* `random.choices(chars, k=n)` が選ぶ位置は関数 `Fin n → Fin chars.length` として、
  `random.randint(a, b)` が選ぶ数は `Fin (b - a + 1)` の元として引数にする。

## 性質

* `assert_valid_hash` が通すのは、小文字にすると `generate_test_hash` が作りうる文字列になる
  文字列に限る（`assertValidHash_iff_generated`）。
* `generate_test_address` の address と、`generate_test_transaction` の各 field は、乱数がどう
  選ばれても、それぞれの検査を通る（`generated_values_pass`）。
* 既定の設定は `validate` を通り、既定の miner の address と TOS の asset も検査を通る
  （`TestConfig.default_valid`）。
-/

namespace Tos.ApiTests

/-! ## 検査 -/

/-- `assert cond, msg`。 -/
def pyAssert (cond : Bool) (msg : List Char) : Except (List Char) Unit :=
  if cond then .ok () else .error msg

/-- `assert_valid_hash(value, message)`：64 文字の 16 進数（大文字も通す）。 -/
def assertValidHash (value message : List Char) : Except (List Char) Unit := do
  pyAssert (value.length == 64)
    (message ++ ": length ".toList ++ (toString value.length).toList ++ " != 64".toList)
  pyAssert ((pyLower value).all "0123456789abcdef".toList.contains)
    (message ++ ": invalid characters".toList)

/-- `assert_valid_address(value, message)`：`tos` か `tst` で始まり、10 文字より長い。 -/
def assertValidAddress (value message : List Char) : Except (List Char) Unit := do
  pyAssert ("tos".toList.isPrefixOf value || "tst".toList.isPrefixOf value)
    (message ++ ": invalid prefix".toList)
  pyAssert (decide (value.length > 10)) (message ++ ": too short".toList)

/-- `assert_positive_integer(value, message)`：名前に反して 0 も通す。 -/
def assertPositiveInteger (value : Int) (message : List Char) : Except (List Char) Unit :=
  pyAssert (decide (value ≥ 0)) (message ++ ": negative value ".toList ++ (toString value).toList)

/-- 三つの検査の `message` の既定値。 -/
def invalidHash : List Char := "Invalid hash".toList

def invalidAddress : List Char := "Invalid address".toList

def expectedPositiveInteger : List Char := "Expected positive integer".toList

theorem pyAssert_eq_ok {cond : Bool} {msg : List Char} : pyAssert cond msg = .ok () ↔ cond = true := by
  cases cond <;> simp [pyAssert]

theorem pyAssert_bind_eq_ok {cond : Bool} {msg : List Char} {f : Unit → Except (List Char) Unit} :
    (pyAssert cond msg >>= f) = .ok () ↔ cond = true ∧ f () = .ok () := by
  cases cond <;> simp [pyAssert, bind, Except.bind]

/-- 16 進の数字は ASCII の文字で、`i` でも `k` でもない。 -/
theorem hexDigit_ascii : ∀ a ∈ "0123456789abcdef".toList, a.toNat < 128 ∧ a ≠ 'i' ∧ a ≠ 'k' := by
  decide

/-- `value.lower()` が 16 進の数字だけなら、`value` は ASCII の文字だけである。 -/
theorem ascii_of_all_hex_pyLower {value : List Char}
    (h : (pyLower value).all "0123456789abcdef".toList.contains = true) :
    ∀ c ∈ value, c.toNat < 128 := by
  intro c hc
  by_contra hlt
  obtain ⟨a, ha, hna⟩ := exists_mem_pyLower hc (Nat.le_of_not_lt hlt)
  obtain ⟨ha128, hi, hk⟩ := hexDigit_ascii a (by simpa using List.all_eq_true.mp h a ha)
  rcases hna with hge | rfl | rfl
  · omega
  · exact hi rfl
  · exact hk rfl

/-- ASCII の小文字が 16 進の数字になる文字は ASCII の文字である。 -/
theorem ascii_of_toLower_hex {c : Char} (h : c.toLower ∈ "0123456789abcdef".toList) :
    c.toNat < 128 := by
  by_contra hlt
  have := (hexDigit_ascii _ h).1
  rw [toLower_of_ge (Nat.le_of_not_lt hlt)] at this
  exact hlt this

/--
**`value.lower()` が 16 進の数字だけになるのは、どの文字も ASCII の小文字にすると 16 進の数字に
なるときに限る。** どちらの側でも `value` は ASCII の文字だけで、そのとき `str.lower` は一文字ずつの
`Char.toLower` である。
-/
theorem all_hex_pyLower_iff (value : List Char) :
    (pyLower value).all "0123456789abcdef".toList.contains = true ↔
      ∀ c ∈ value, c.toLower ∈ "0123456789abcdef".toList := by
  constructor
  · intro h
    rw [pyLower_of_ascii (ascii_of_all_hex_pyLower h)] at h
    simpa only [List.all_eq_true, List.forall_mem_map, List.elem_iff, List.contains] using h
  · intro h
    rw [pyLower_of_ascii fun c hc => ascii_of_toLower_hex (h c hc)]
    simpa only [List.all_eq_true, List.forall_mem_map, List.elem_iff, List.contains] using h

theorem assertValidHash_eq_ok {value message : List Char} :
    assertValidHash value message = .ok () ↔
      value.length = 64 ∧ ∀ c ∈ value, c.toLower ∈ "0123456789abcdef".toList := by
  simp only [assertValidHash, pyAssert_bind_eq_ok, pyAssert_eq_ok, beq_iff_eq, all_hex_pyLower_iff]

theorem assertValidAddress_eq_ok {value message : List Char} :
    assertValidAddress value message = .ok () ↔
      ("tos".toList <+: value ∨ "tst".toList <+: value) ∧ 10 < value.length := by
  simp only [assertValidAddress, pyAssert_bind_eq_ok, pyAssert_eq_ok, Bool.or_eq_true,
    List.isPrefixOf_iff_prefix, decide_eq_true_eq]

/-! ## 値の生成 -/

/-- `string.ascii_lowercase + string.digits`。 -/
def addressChars : List Char := "abcdefghijklmnopqrstuvwxyz0123456789".toList

/-- `{"devnet": "tst", "testnet": "tst", "mainnet": "tos"}.get(network, "tst")`。 -/
def addressPrefix (network : List Char) : List Char :=
  ([("devnet".toList, "tst".toList), ("testnet".toList, "tst".toList),
    ("mainnet".toList, "tos".toList)].lookup network).getD "tst".toList

/-- `generate_test_address(network)`。`pick i` は `random.choices` が `i` 番目に選ぶ文字の位置。 -/
def generateTestAddress (network : List Char) (pick : Fin 60 → Fin addressChars.length) :
    List Char :=
  addressPrefix network ++ '1' :: List.ofFn fun i => addressChars.get (pick i)

/-- `string.hexdigits.lower()`。 -/
def hashChars : List Char := pyLower "0123456789abcdefABCDEF".toList

/-- `generate_test_hash()`。 -/
def generateTestHash (pick : Fin 64 → Fin hashChars.length) : List Char :=
  List.ofFn fun i => hashChars.get (pick i)

/-- `random.randint(a, b)`：`a` から `b` までの数のうち `k` が選ぶもの。 -/
def randint (a b : Int) (k : Fin (b - a + 1).toNat) : Int := a + k

/-- `generate_test_transaction()` の dict。 -/
structure TestTransaction where
  source : List Char
  destination : List Char
  amount : Int
  fee : Int
  nonce : Int
  deriving DecidableEq, Repr

/-- `generate_test_transaction()`。address は `generate_test_address()`、つまり `devnet` のもの。 -/
def generateTestTransaction (source destination : Fin 60 → Fin addressChars.length)
    (amount : Fin ((10000000 : Int) - 1000000 + 1).toNat) (fee : Fin ((1000 : Int) - 100 + 1).toNat)
    (nonce : Fin ((100 : Int) - 0 + 1).toNat) : TestTransaction :=
  ⟨generateTestAddress "devnet".toList source, generateTestAddress "devnet".toList destination,
    randint 1000000 10000000 amount, randint 100 1000 fee, randint 0 100 nonce⟩

theorem addressPrefix_cases (network : List Char) :
    addressPrefix network = "tos".toList ∨ addressPrefix network = "tst".toList := by
  unfold addressPrefix
  simp only [List.lookup]
  split <;> try split <;> try split
  all_goals simp

theorem randint_nonneg {a b : Int} (ha : 0 ≤ a) (k : Fin (b - a + 1).toNat) : 0 ≤ randint a b k := by
  unfold randint
  omega

/-- `hashChars` の文字は、小文字の 16 進数の数字である。 -/
theorem hashChars_hex : ∀ c ∈ hashChars, c ∈ "0123456789abcdef".toList := by
  decide

/-! ## 生成した値の検査 -/

/--
**`assert_valid_hash` が通すのは、小文字にすると `generate_test_hash` が作りうる文字列に限る。**
どの `message` でも、検査を通る値と、`random.choices` の選び方で小文字の形が作られる値は同じである。
-/
theorem assertValidHash_iff_generated (value message : List Char) :
    assertValidHash value message = .ok () ↔
      ∃ pick : Fin 64 → Fin hashChars.length, generateTestHash pick = value.map Char.toLower := by
  rw [assertValidHash_eq_ok]
  constructor
  · rintro ⟨hlen, hhex⟩
    have hsub : ∀ c ∈ "0123456789abcdef".toList, c ∈ hashChars := by decide
    have hmem : ∀ i : Fin 64, (value.map Char.toLower).get ⟨i, by simp [hlen]⟩ ∈ hashChars :=
      fun i => hsub _ (by simpa using hhex _ (List.get_mem value i (by omega)))
    refine ⟨fun i => ⟨hashChars.indexOf _, List.indexOf_lt_length.mpr (hmem i)⟩, ?_⟩
    apply List.ext_get ((List.length_ofFn _).trans (by rw [List.length_map, hlen]))
    intro n h₁ h₂
    simp only [generateTestHash, List.get_ofFn, List.indexOf_get]
    rfl
  · rintro ⟨pick, hpick⟩
    have hlen : value.length = 64 := by
      rw [← List.length_map value Char.toLower, ← hpick, generateTestHash, List.length_ofFn]
    refine ⟨hlen, fun c hc => ?_⟩
    have hc' : c.toLower ∈ generateTestHash pick := hpick ▸ List.mem_map_of_mem _ hc
    obtain ⟨i, hi⟩ := List.mem_ofFn _ _ |>.mp hc'
    rw [← hi]
    exact hashChars_hex _ (List.get_mem _ _ _)

theorem assertValidAddress_generateTestAddress (network : List Char)
    (pick : Fin 60 → Fin addressChars.length) (message : List Char) :
    assertValidAddress (generateTestAddress network pick) message = .ok () := by
  have hlen : 10 < (generateTestAddress network pick).length := by
    simp only [generateTestAddress, List.length_append, List.length_cons, List.length_ofFn]
    omega
  refine assertValidAddress_eq_ok.mpr ⟨?_, hlen⟩
  rcases addressPrefix_cases network with h | h <;>
    simp only [generateTestAddress, h, List.prefix_append, true_or, or_true]

/--
**生成した test の値は検査を通る。** どの network、どの `random` の選び方でも、
`generate_test_address` の address は `assert_valid_address` を通り、`generate_test_transaction` の
`source` と `destination` は `assert_valid_address` を、`amount`・`fee`・`nonce` は
`assert_positive_integer` を通る。
-/
theorem generated_values_pass (message : List Char) :
    (∀ network pick, assertValidAddress (generateTestAddress network pick) message = .ok ()) ∧
    ∀ source destination amount fee nonce,
      let t := generateTestTransaction source destination amount fee nonce
      assertValidAddress t.source message = .ok () ∧
        assertValidAddress t.destination message = .ok () ∧
        assertPositiveInteger t.amount message = .ok () ∧
        assertPositiveInteger t.fee message = .ok () ∧
        assertPositiveInteger t.nonce message = .ok () := by
  refine ⟨fun network pick => assertValidAddress_generateTestAddress network pick message,
    fun source destination amount fee nonce => ?_⟩
  simp only [generateTestTransaction, assertPositiveInteger, pyAssert_eq_ok, decide_eq_true_eq]
  exact ⟨assertValidAddress_generateTestAddress _ _ _, assertValidAddress_generateTestAddress _ _ _,
    randint_nonneg (by decide) _, randint_nonneg (by decide) _, randint_nonneg le_rfl _⟩

/-! ## 既定の設定 -/

/-- `TestConfig` のうち、`validate` と検査が読むもの。 -/
structure TestConfig where
  daemonRpcUrl : List Char
  network : List Char
  testMinerAddress : List Char
  tosAsset : List Char
  deriving DecidableEq, Repr

/-- 環境変数のないときの `TestConfig`。 -/
def TestConfig.default : TestConfig where
  daemonRpcUrl := "http://127.0.0.1:8080/json_rpc".toList
  network := "devnet".toList
  testMinerAddress := "tst12zacnuun3lkv5kxzn2jy8l28d0zft7rqhyxlz2v6h6u23xmruy7sqm0d38u".toList
  tosAsset := "0000000000000000000000000000000000000000000000000000000000000000".toList

/-- `TestConfig.validate()`。`ValueError` の message を返す。 -/
def TestConfig.validate (c : TestConfig) : Except (List Char) Unit :=
  if c.daemonRpcUrl.isEmpty then .error "TOS_DAEMON_RPC_URL must be set".toList
  else if c.network ∉ ["mainnet".toList, "testnet".toList, "devnet".toList] then
    .error ("Invalid network: ".toList ++ c.network)
  else .ok ()

/-- 既定の設定は `validate` を通り、既定の miner の address と TOS の asset は検査を通る。 -/
theorem TestConfig.default_valid :
    TestConfig.default.validate = .ok () ∧
      assertValidAddress TestConfig.default.testMinerAddress invalidAddress = .ok () ∧
      assertValidHash TestConfig.default.tosAsset invalidHash = .ok () :=
  ⟨rfl, rfl, rfl⟩

end Tos.ApiTests
