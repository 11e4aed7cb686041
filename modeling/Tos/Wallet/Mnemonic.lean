import Tos.Unicode

/-!
# `words_to_key`

試験用の wallet（`tests/api/lib/wallet.py`）の `words_to_key` を書く。24 語か 25 語の seed の
はじめの 24 語を word list の位置に直し、三語 `(a, b, c)` ずつ

  `a + 1626 * ((1626 - a + b) % 1626) + 1626 ^ 2 * ((1626 - b + c) % 1626)`

を計算して、little endian の 4 byte に書く。

## 模型

* word list は `lib.english_words` から読むが、この module は source にない。ここでは
  word list を引数 `wordList` として受ける。
* Python の例外は `KeyError` の値で返す。`int.to_bytes(4, 'little')` は値が 4 byte に
  収まらなければ `OverflowError` を上げる。
* 整数は `Int` で計算する。`%` は Lean でも Python でも、正の法に対して 0 以上を返す。
* `w.lower()` は `Tos.Unicode` の `pyLower`（CPython の `str.lower`）である。

## 性質

* word list が 1626 語以下で語がみな見つかれば、`words_to_key` が key を返すのは、どの組の値も
  4 byte に収まるときに限る。そのとき key は 32 byte である（`wordsToKey_ok_iff`）。
* 第三項の係数 `(1626 - b + c) % 1626` が 1625 になる組（たとえば word list の先頭の二語 `x, y` で
  `x, y, x`）は 4 byte に収まらず、`words_to_key` は `OverflowError` を上げる（`wordsToKey_overflow`）。
* 例外は、長さ、最初の見つからない語、（1626 語より長い word list での）sanity check、
  `to_bytes` のあふれの四つに限る。負の値の例外と `Invalid key size` は起こらない
  （`wordsToKey_error`）。
-/

namespace Tos.Wallet

/-! ## 定数と例外 -/

/-- `KEY_SIZE`。 -/
def keySize : Nat := 32

/-- `SEED_LENGTH`。 -/
def seedLength : Nat := 24

/-- `WORDS_LIST`。 -/
def wordsList : Nat := 1626

/-- `words_to_key` が上げる例外。 -/
inductive KeyError where
  | invalidSeedLength (n : Nat)
  | wordNotInList (word : List Char)
  | sanityCheckFailed
  | intTooBig
  | negativeInt
  | invalidKeySize (n : Nat)
  deriving DecidableEq, Repr

/-- 例外の文。`intTooBig` と `negativeInt` は `int.to_bytes` の `OverflowError` の文である。 -/
def KeyError.message : KeyError → List Char
  | .invalidSeedLength n =>
    "Invalid seed length: ".toList ++ (toString n).toList ++ ", expected 24 or 25".toList
  | .wordNotInList w => "Word not in word list: ".toList ++ w
  | .sanityCheckFailed => "Word list sanity check failed".toList
  | .intTooBig => "int too big to convert".toList
  | .negativeInt => "can\x27t convert negative int to unsigned".toList
  | .invalidKeySize n => "Invalid key size: ".toList ++ (toString n).toList ++ ", expected 32".toList

/-! ## 部品 -/

/-- `words_lower` の一語 `w.lower()`。 -/
def lowerWord (w : List Char) : List Char := pyLower w

/-- `ENGLISH_WORDS.index(word)`：最初に現れる位置。 -/
def listIndex (word : List Char) : List (List Char) → Option Nat
  | [] => none
  | w :: ws => if w = word then some 0 else (listIndex word ws).map (· + 1)

/-- `indices` を作る loop。見つからない語があれば、最初のその語で例外を上げる。 -/
def wordIndices (wordList : List (List Char)) : List (List Char) → Except KeyError (List Nat)
  | [] => pure []
  | w :: ws =>
    match listIndex w wordList with
    | none => throw (.wordNotInList w)
    | some i => do
      let rest ← wordIndices wordList ws
      pure (i :: rest)

/-- 三語の組の値 `val`。 -/
def groupValue (a b c : Nat) : Int :=
  a + wordsList * ((wordsList - a + b : Int) % wordsList) +
    wordsList * wordsList * ((wordsList - b + c : Int) % wordsList)

/-- `val.to_bytes(4, 'little')`。 -/
def toBytes4 (v : Int) : Except KeyError (List UInt8) :=
  if v < 0 then throw .negativeInt
  else if 2 ^ 32 ≤ v then throw .intTooBig
  else pure ((List.range 4).map fun i => (v.toNat / 256 ^ i % 256).toUInt8)

/-- loop の一回：sanity check の後、値を 4 byte にする。 -/
def encodeGroup (a b c : Nat) : Except KeyError (List UInt8) :=
  if groupValue a b c % wordsList ≠ a then throw .sanityCheckFailed else toBytes4 (groupValue a b c)

/-- `for i in range(0, SEED_LENGTH, 3)` の loop。`dest` に組ごとの 4 byte を足す。 -/
def encodeGroups : List Nat → Except KeyError (List UInt8)
  | a :: b :: c :: rest => do
    let bytes ← encodeGroup a b c
    let more ← encodeGroups rest
    pure (bytes ++ more)
  | _ => pure []

/-- `words_to_key`。 -/
def wordsToKey (wordList words : List (List Char)) : Except KeyError (List UInt8) := do
  if words.length ∉ [seedLength, seedLength + 1] then throw (.invalidSeedLength words.length)
  let indices ← wordIndices wordList ((words.map lowerWord).take seedLength)
  let dest ← encodeGroups indices
  if dest.length ≠ keySize then throw (.invalidKeySize dest.length)
  pure dest

/-! ## 一歩ずつの式 -/

theorem ok_bind {α β : Type} (a : α) (f : α → Except KeyError β) : (Except.ok a >>= f) = f a := rfl

theorem error_bind {α β : Type} (e : KeyError) (f : α → Except KeyError β) :
    (Except.error e >>= f) = Except.error e := rfl

/-- 例外を上げなかった `do` の一歩は、前の段も例外を上げなかった。 -/
theorem bind_eq_ok {α β : Type} {x : Except KeyError α} {f : α → Except KeyError β} {r : β} :
    (x >>= f) = .ok r ↔ ∃ a, x = .ok a ∧ f a = .ok r := by
  cases x <;> simp [bind, Except.bind]

/-- 例外を上げた `do` の一歩は、前の段か、その後の段が例外を上げた。 -/
theorem bind_eq_error {α β : Type} {x : Except KeyError α} {f : α → Except KeyError β} {e : KeyError} :
    (x >>= f) = .error e ↔ x = .error e ∨ ∃ a, x = .ok a ∧ f a = .error e := by
  cases x <;> simp [bind, Except.bind]

theorem wordIndices_cons_of_index {wordList : List (List Char)} {w : List Char} {i : Nat}
    (h : listIndex w wordList = some i) (ws : List (List Char)) :
    wordIndices wordList (w :: ws) = (wordIndices wordList ws).map (i :: ·) := by
  rw [wordIndices, h]
  cases wordIndices wordList ws <;> rfl

theorem wordIndices_replicate {wordList : List (List Char)} {w : List Char} {i : Nat}
    (h : listIndex w wordList = some i) (n : Nat) :
    wordIndices wordList (List.replicate n w) = .ok (List.replicate n i) := by
  induction n with
  | zero => rfl
  | succ n ih => rw [List.replicate_succ, wordIndices_cons_of_index h, ih]; rfl

/-- `words_to_key` の三つの段：長さの検査、語の位置、組ごとの 4 byte。 -/
theorem wordsToKey_eq (wordList words : List (List Char)) :
    wordsToKey wordList words =
      if words.length ∉ [seedLength, seedLength + 1] then .error (.invalidSeedLength words.length)
      else wordIndices wordList ((words.map lowerWord).take seedLength) >>= fun indices =>
        encodeGroups indices >>= fun dest =>
          if dest.length ≠ keySize then .error (.invalidKeySize dest.length) else .ok dest := by
  unfold wordsToKey
  split <;> rfl

theorem encodeGroups_cons {a b c : Nat} (rest : List Nat) :
    encodeGroups (a :: b :: c :: rest) = encodeGroup a b c >>= fun bytes =>
      encodeGroups rest >>= fun more => pure (bytes ++ more) := rfl

/-! ## 組の値の大きさ -/

theorem groupValue_emod (a b c : Nat) : groupValue a b c % wordsList = a % wordsList := by
  simp only [groupValue, wordsList]
  omega

theorem groupValue_nonneg (a b c : Nat) : 0 ≤ groupValue a b c := by
  simp only [groupValue, wordsList]
  omega

/-! ## 例外の起こらない seed -/

/-- 組ごとの値が 4 byte に収まる。 -/
def groupsFit : List Nat → Bool
  | a :: b :: c :: rest => decide (groupValue a b c < 2 ^ 32) && groupsFit rest
  | _ => true

theorem listIndex_lt {w : List Char} {wordList : List (List Char)} {i : Nat}
    (h : listIndex w wordList = some i) : i < wordList.length := by
  induction wordList generalizing i with
  | nil => cases h
  | cons w' ws ih =>
    rw [listIndex] at h
    split at h
    · cases h; exact Nat.succ_pos _
    · obtain ⟨j, hj, rfl⟩ := Option.map_eq_some'.mp h
      exact Nat.succ_lt_succ (ih hj)

/-- 例外を上げなかった `indices` の loop の結果は、語ごとの `index` である。 -/
theorem wordIndices_ok_map {wordList : List (List Char)} :
    ∀ {ws : List (List Char)} {idx : List Nat}, wordIndices wordList ws = .ok idx →
      ws.map (fun w => listIndex w wordList) = idx.map some
  | [], idx, h => by cases h; rfl
  | w :: ws, idx, h => by
    cases hw : listIndex w wordList with
    | none => rw [wordIndices, hw] at h; cases h
    | some i =>
      rw [wordIndices, hw, bind_eq_ok] at h
      obtain ⟨rest, hr, h⟩ := h
      cases h
      rw [List.map_cons, hw, wordIndices_ok_map hr]
      rfl

/-- 語の位置は語と同じ数だけあり、どれも word list の中を指す。 -/
theorem wordIndices_ok {wordList : List (List Char)} {ws : List (List Char)} {idx : List Nat}
    (h : wordIndices wordList ws = .ok idx) : idx.length = ws.length ∧ ∀ i ∈ idx, i < wordList.length := by
  have hm := wordIndices_ok_map h
  refine ⟨by simpa using congrArg List.length hm.symm, fun i hi => ?_⟩
  obtain ⟨w, -, hw⟩ := List.mem_map.mp (show some i ∈ ws.map (listIndex · wordList) by
    rw [hm]; exact List.mem_map_of_mem some hi)
  exact listIndex_lt hw

/-- 長さの検査を通った seed の、はじめの 24 語。 -/
theorem length_take_seedLength {words : List (List Char)}
    (hlen : words.length ∈ [seedLength, seedLength + 1]) :
    ((words.map lowerWord).take seedLength).length = 24 := by
  simp only [seedLength, List.mem_cons, List.mem_singleton, List.not_mem_nil, or_false] at hlen
  rw [List.length_take, List.length_map, seedLength]
  omega

theorem toBytes4_of_lt {v : Int} (h0 : 0 ≤ v) (h : v < 2 ^ 32) :
    toBytes4 v = .ok ((List.range 4).map fun i => (v.toNat / 256 ^ i % 256).toUInt8) := by
  rw [toBytes4, if_neg (by omega), if_neg (by omega)]
  rfl

/-- 値が負でなければ、`to_bytes` の例外は `int too big to convert` だけである。 -/
theorem toBytes4_error {v : Int} {e : KeyError} (h : toBytes4 v = .error e) (h0 : 0 ≤ v) :
    e = .intTooBig := by
  rw [toBytes4, if_neg (by omega)] at h
  split at h
  · cases h; rfl
  · cases h

theorem toBytes4_ok_length {v : Int} {bytes : List UInt8} (h : toBytes4 v = .ok bytes) :
    bytes.length = 4 := by
  unfold toBytes4 at h
  split at h
  · cases h
  · split at h
    · cases h
    · cases h; rfl

theorem encodeGroup_of_lt {a : Nat} (ha : a < wordsList) (b c : Nat) :
    encodeGroup a b c = toBytes4 (groupValue a b c) := by
  rw [encodeGroup, if_neg]
  rw [groupValue_emod]
  exact not_not.mpr (Int.emod_eq_of_lt (by omega) (by omega))

/-- 例外を上げなかった loop の一回：組の値は 4 byte に収まり、key はその 4 byte に残りの組の byte が続く。 -/
theorem encodeGroups_cons_ok {a b c : Nat} {rest : List Nat} {key : List UInt8} (ha : a < wordsList)
    (h : encodeGroups (a :: b :: c :: rest) = .ok key) :
    groupValue a b c < 2 ^ 32 ∧ ∃ more, encodeGroups rest = .ok more ∧
      key = (List.range 4).map (fun i => ((groupValue a b c).toNat / 256 ^ i % 256).toUInt8) ++ more := by
  rw [encodeGroups_cons, encodeGroup_of_lt ha] at h
  by_cases hv : groupValue a b c < 2 ^ 32
  · rw [toBytes4_of_lt (groupValue_nonneg a b c) hv, ok_bind, bind_eq_ok] at h
    obtain ⟨more, hmore, ⟨⟩⟩ := h
    exact ⟨hv, more, hmore, rfl⟩
  · rw [toBytes4, if_neg (by have := groupValue_nonneg a b c; omega), if_pos (by omega)] at h
    cases h

/-- **位置が word list の中なら、loop が例外を上げないのは、どの組の値も 4 byte に収まるときである。** -/
theorem encodeGroups_ok_iff : ∀ (l : List Nat), (∀ i ∈ l, i < wordsList) →
    ((∃ dest, encodeGroups l = .ok dest ∧ dest.length = 4 * (l.length / 3)) ↔ groupsFit l = true)
  | a :: b :: c :: rest, hl => by
    have ha := hl a (by simp)
    have ih := encodeGroups_ok_iff rest fun i hi => hl i (by simp [hi])
    rw [groupsFit, Bool.and_eq_true, decide_eq_true_iff, ← ih]
    constructor
    · rintro ⟨dest, hd, hlen⟩
      obtain ⟨hv, more, hmore, rfl⟩ := encodeGroups_cons_ok ha hd
      refine ⟨hv, more, hmore, ?_⟩
      simp only [List.length_append, List.length_map, List.length_range, List.length_cons] at hlen
      omega
    · rintro ⟨hv, more, hmore, hlen⟩
      rw [encodeGroups_cons, encodeGroup_of_lt ha, toBytes4_of_lt (groupValue_nonneg a b c) hv,
        ok_bind, hmore, ok_bind]
      refine ⟨_, rfl, ?_⟩
      simp only [List.length_append, List.length_map, List.length_range, List.length_cons, hlen]
      omega
  | [], _ | [_], _ | [_, _], _ => ⟨fun _ => rfl, fun _ => ⟨[], rfl, by simp⟩⟩

/-- 例外を上げなかった `words_to_key`：長さは 24 か 25 で、語がみな見つかり、loop が key を書いた。 -/
theorem wordsToKey_ok_inv {wordList words : List (List Char)} {key : List UInt8}
    (h : wordsToKey wordList words = .ok key) :
    words.length ∈ [seedLength, seedLength + 1] ∧ ∃ idx,
      wordIndices wordList ((words.map lowerWord).take seedLength) = .ok idx ∧
        encodeGroups idx = .ok key := by
  rw [wordsToKey_eq] at h
  split at h
  · cases h
  · next hlen =>
    obtain ⟨idx, hidx, h⟩ := bind_eq_ok.mp h
    obtain ⟨dest, hd, h⟩ := bind_eq_ok.mp h
    split at h
    · cases h
    · cases h
      exact ⟨not_not.mp hlen, idx, hidx, hd⟩

/--
**word list が 1626 語以下で、語がみな見つかれば、`words_to_key` が 32 byte の key を返すのは、
どの組の値も 4 byte に収まるときである。** `Invalid key size` と sanity check の例外は起こらない。
-/
theorem wordsToKey_ok_iff {wordList words : List (List Char)} {idx : List Nat}
    (hwl : wordList.length ≤ wordsList) (hlen : words.length ∈ [seedLength, seedLength + 1])
    (hidx : wordIndices wordList ((words.map lowerWord).take seedLength) = .ok idx) :
    (∃ key, wordsToKey wordList words = .ok key ∧ key.length = keySize) ↔ groupsFit idx = true := by
  obtain ⟨hn, hlt⟩ := wordIndices_ok hidx
  rw [← encodeGroups_ok_iff idx fun i hi => (hlt i hi).trans_le hwl, hn, length_take_seedLength hlen]
  constructor
  · rintro ⟨key, hk, hklen⟩
    obtain ⟨-, idx', hidx', hd⟩ := wordsToKey_ok_inv hk
    cases hidx.symm.trans hidx'
    exact ⟨key, hd, hklen⟩
  · rintro ⟨dest, hd, hdlen⟩
    rw [wordsToKey_eq, if_neg (not_not.mpr hlen), hidx, ok_bind, hd, ok_bind,
      if_neg (by rw [hdlen]; decide)]
    exact ⟨dest, rfl, hdlen⟩

theorem wordsToKey_ok_iff_abbey :
    ["abbey".toList, "abducts".toList].length ≤ wordsList ∧
      (List.replicate 24 "abbey".toList).length ∈ [seedLength, seedLength + 1] ∧
      wordIndices ["abbey".toList, "abducts".toList]
          (((List.replicate 24 "abbey".toList).map lowerWord).take seedLength) =
        .ok (List.replicate 24 0) ∧
      ((∃ key, wordsToKey ["abbey".toList, "abducts".toList] (List.replicate 24 "abbey".toList) =
          .ok key ∧ key.length = keySize) ↔ groupsFit (List.replicate 24 0) = true) :=
  ⟨by decide, by decide, rfl, wordsToKey_ok_iff (by decide) (by decide) rfl⟩

/-! ## 例外の分類 -/

theorem wordIndices_error {wordList : List (List Char)} {e : KeyError} :
    ∀ {ws : List (List Char)}, wordIndices wordList ws = .error e →
      ∃ pre w post, ws = pre ++ w :: post ∧ (∀ x ∈ pre, listIndex x wordList ≠ none) ∧
        listIndex w wordList = none ∧ e = .wordNotInList w
  | [], h => by cases h
  | w :: ws, h => by
    cases hw : listIndex w wordList with
    | none =>
      rw [wordIndices, hw] at h
      cases h
      exact ⟨[], w, ws, rfl, fun x hx => absurd hx (List.not_mem_nil x), hw, rfl⟩
    | some i =>
      rw [wordIndices, hw, bind_eq_error] at h
      rcases h with hr | ⟨_, _, h⟩
      · obtain ⟨pre, v, post, rfl, hpre, hv, rfl⟩ := wordIndices_error hr
        refine ⟨w :: pre, v, post, rfl, fun x hx => ?_, hv, rfl⟩
        rcases List.mem_cons.mp hx with rfl | hx
        · rw [hw]; exact Option.some_ne_none i
        · exact hpre x hx
      · cases h

/-- loop の一回の例外は、sanity check（位置が 1626 以上のとき）か `to_bytes` のあふれである。 -/
theorem encodeGroup_error {a b c : Nat} {e : KeyError} (h : encodeGroup a b c = .error e) :
    e = .intTooBig ∨ (e = .sanityCheckFailed ∧ wordsList ≤ a) := by
  unfold encodeGroup at h
  split at h
  · next hs =>
    cases h
    refine .inr ⟨rfl, Nat.le_of_not_lt fun ha => hs ?_⟩
    rw [groupValue_emod]
    exact Int.emod_eq_of_lt (by omega) (by omega)
  · exact .inl (toBytes4_error h (groupValue_nonneg a b c))

theorem encodeGroups_error {e : KeyError} : ∀ {l : List Nat}, encodeGroups l = .error e →
    e = .intTooBig ∨ (e = .sanityCheckFailed ∧ ∃ a ∈ l, wordsList ≤ a)
  | a :: b :: c :: rest, h => by
    rw [encodeGroups_cons, bind_eq_error] at h
    rcases h with hg | ⟨_, _, h⟩
    · exact (encodeGroup_error hg).imp_right fun ⟨he, ha⟩ => ⟨he, a, .head _, ha⟩
    · rw [bind_eq_error] at h
      rcases h with hr | ⟨_, _, h⟩
      · exact (encodeGroups_error hr).imp_right fun ⟨he, x, hx, hle⟩ =>
          ⟨he, x, .tail _ (.tail _ (.tail _ hx)), hle⟩
      · cases h
  | [], h | [_], h | [_, _], h => by cases h

theorem encodeGroups_length : ∀ {l : List Nat} {dest : List UInt8}, encodeGroups l = .ok dest →
    dest.length = 4 * (l.length / 3)
  | a :: b :: c :: rest, dest, h => by
    rw [encodeGroups_cons, bind_eq_ok] at h
    obtain ⟨bytes, hb, h⟩ := h
    obtain ⟨more, hm, ⟨⟩⟩ := bind_eq_ok.mp h
    have h4 : bytes.length = 4 := by
      unfold encodeGroup at hb
      split at hb
      · cases hb
      · exact toBytes4_ok_length hb
    simp only [List.length_append, h4, encodeGroups_length hm, List.length_cons]
    omega
  | [], _, h | [_], _, h | [_, _], _, h => by cases h; simp

/--
**`words_to_key` の例外は四つに限る。** 長さが 24 でも 25 でもなければ `Invalid seed length`、
はじめの 24 語（小文字にしたもの）に word list にない語があれば、その最初の語で
`Word not in word list`、word list が 1626 語より長く、位置が 1626 以上の語があるときに限って
`Word list sanity check failed`、それ以外は `int too big to convert` である。負の値の例外と
`Invalid key size` は決して起こらない。
-/
theorem wordsToKey_error {wordList words : List (List Char)} {e : KeyError}
    (h : wordsToKey wordList words = .error e) :
    (words.length ∉ [seedLength, seedLength + 1] ∧ e = .invalidSeedLength words.length) ∨
      (∃ pre w post, (words.map lowerWord).take seedLength = pre ++ w :: post ∧
        (∀ x ∈ pre, listIndex x wordList ≠ none) ∧ listIndex w wordList = none ∧
        e = .wordNotInList w) ∨
      (e = .sanityCheckFailed ∧ wordsList < wordList.length) ∨ e = .intTooBig := by
  rw [wordsToKey_eq] at h
  split at h
  · next hlen => cases h; exact .inl ⟨hlen, rfl⟩
  · next hlen =>
    rw [bind_eq_error] at h
    rcases h with hi | ⟨idx, hidx, h⟩
    · exact .inr (.inl (wordIndices_error hi))
    · rw [bind_eq_error] at h
      rcases h with he | ⟨dest, hd, h⟩
      · rcases encodeGroups_error he with rfl | ⟨rfl, a, ha, hle⟩
        · exact .inr (.inr (.inr rfl))
        · exact .inr (.inr (.inl ⟨rfl, hle.trans_lt ((wordIndices_ok hidx).2 a ha)⟩))
      · rw [if_neg] at h
        · cases h
        · rw [encodeGroups_length hd, (wordIndices_ok hidx).1, length_take_seedLength (not_not.mp hlen)]
          decide

/-- 最初の組の値が 4 byte に収まらない seed は、`int too big to convert` の場合である。 -/
theorem wordsToKey_error_abbey :
    wordsToKey ["abbey".toList, "abducts".toList]
        ("abbey".toList :: "abducts".toList :: "abbey".toList :: List.replicate 21 "abbey".toList) =
      .error .intTooBig ∧
    ((("abbey".toList :: "abducts".toList :: "abbey".toList :: List.replicate 21 "abbey".toList).length ∉
        [seedLength, seedLength + 1] ∧ KeyError.intTooBig = .invalidSeedLength 24) ∨
      (∃ pre w post, (("abbey".toList :: "abducts".toList :: "abbey".toList ::
          List.replicate 21 "abbey".toList).map lowerWord).take seedLength = pre ++ w :: post ∧
        (∀ x ∈ pre, listIndex x ["abbey".toList, "abducts".toList] ≠ none) ∧
        listIndex w ["abbey".toList, "abducts".toList] = none ∧ KeyError.intTooBig = .wordNotInList w) ∨
      (KeyError.intTooBig = .sanityCheckFailed ∧ wordsList < 2) ∨ KeyError.intTooBig = .intTooBig) :=
  ⟨rfl, wordsToKey_error rfl⟩

/-! ## 4 byte に収まらない seed -/

/--
**word list の先頭の二語 `x, y` で `x, y, x, x, …` と並べた seed は `OverflowError` になる。**
位置は `0, 1, 0` で、最初の組の値は `1626 + 1626 ^ 2 * 1625 ≥ 2 ^ 32` である。
-/
theorem wordsToKey_overflow (x y : List Char) (rest : List (List Char)) (hxy : x ≠ y)
    (hx : lowerWord x = x) (hy : lowerWord y = y) :
    wordsToKey (x :: y :: rest) (x :: y :: x :: List.replicate 21 x) = .error .intTooBig := by
  have hix : listIndex x (x :: y :: rest) = some 0 := by simp [listIndex]
  have hiy : listIndex y (x :: y :: rest) = some 1 := by simp [listIndex, hxy]
  have hlower : (x :: y :: x :: List.replicate 21 x).map lowerWord = x :: y :: x :: List.replicate 21 x := by
    simp [List.map_replicate, hx, hy]
  have hidx : wordIndices (x :: y :: rest) (x :: y :: x :: List.replicate 21 x) =
      .ok (0 :: 1 :: 0 :: List.replicate 21 0) := by
    rw [wordIndices_cons_of_index hix, wordIndices_cons_of_index hiy,
      wordIndices_cons_of_index hix, wordIndices_replicate hix]
    rfl
  have hgroup : encodeGroup 0 1 0 = .error .intTooBig := rfl
  rw [wordsToKey_eq, if_neg (by simp [seedLength]), hlower,
    List.take_of_length_le (by simp [seedLength]), hidx, ok_bind, encodeGroups_cons, hgroup,
    error_bind, error_bind]

theorem wordsToKey_overflow_abbey :
    "abbey".toList ≠ "abducts".toList ∧ lowerWord "abbey".toList = "abbey".toList ∧
      lowerWord "abducts".toList = "abducts".toList ∧
      wordsToKey ["abbey".toList, "abducts".toList]
          ("abbey".toList :: "abducts".toList :: "abbey".toList :: List.replicate 21 "abbey".toList) =
        .error .intTooBig :=
  ⟨by decide, by decide, by decide,
    wordsToKey_overflow "abbey".toList "abducts".toList [] (by decide) (by decide) (by decide)⟩

end Tos.Wallet
