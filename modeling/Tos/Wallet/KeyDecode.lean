import Tos.Wallet.Mnemonic

/-!
# key から位置を読み戻す

`words_to_key` が返した key から、はじめの 24 語の位置を読み戻す。key を 4 byte ずつ
little endian の整数に戻し（`fromBytesLE`）、その整数を 1626 進の三桁
`a`、`(b - a) % 1626`、`(c - b) % 1626` に分ければ、位置が 1626 未満のかぎり `(a, b, c)` が戻る
（`decodeGroup_groupValue`）。

word list の語の数は `WORDS_LIST` の 1626 である（source にない `lib.english_words` の約束）。
それより長い word list では `b` と `b + 1626` が同じ値を与えるので、この約束は要る。
このとき、key を返した seed の位置は key から決まり（`decodeKey_of_wordsToKey`）、
同じ key を返す二つの seed は、はじめの 24 語の位置が等しい（`wordsToKey_injective`）。
-/

namespace Tos.Wallet

/-! ## 読み戻し -/

/-- little endian の byte 列を整数に読む（`int.from_bytes(bs, 'little')`）。 -/
def fromBytesLE : List UInt8 → Nat
  | [] => 0
  | b :: bs => b.toNat + 256 * fromBytesLE bs

/-- 組の値から三つの位置を読む。 -/
def decodeGroup (v : Nat) : List Nat :=
  let a := v % wordsList
  let b := (a + v / wordsList % wordsList) % wordsList
  [a, b, (b + v / (wordsList * wordsList)) % wordsList]

/-- key を 4 byte ずつ読む。 -/
def decodeKey : List UInt8 → List Nat
  | b₀ :: b₁ :: b₂ :: b₃ :: rest => decodeGroup (fromBytesLE [b₀, b₁, b₂, b₃]) ++ decodeKey rest
  | _ => []

/-! ## 一組の読み戻し -/

/-- `to_bytes(4, 'little')` の 4 byte は、値に読み戻る。 -/
theorem fromBytesLE_bytes {n : Nat} (h : n < 2 ^ 32) :
    fromBytesLE ((List.range 4).map fun i => (n / 256 ^ i % 256).toUInt8) = n := by
  show (n / 1 % 256 % 256) + 256 * ((n / 256 % 256 % 256) + 256 * ((n / 65536 % 256 % 256) +
    256 * ((n / 16777216 % 256 % 256) + 256 * 0))) = n
  omega

/-- 位置が 1626 未満なら、組の値から三つの位置が戻る。 -/
theorem decodeGroup_groupValue {a b c : Nat} (ha : a < wordsList) (hb : b < wordsList)
    (hc : c < wordsList) : decodeGroup (groupValue a b c).toNat = [a, b, c] := by
  simp only [wordsList] at ha hb hc
  have hN : groupValue a b c =
      ((a + 1626 * ((1626 - a + b) % 1626) + 1626 * 1626 * ((1626 - b + c) % 1626) : Nat) : Int) := by
    simp only [groupValue, wordsList]
    omega
  rw [hN, Int.toNat_ofNat]
  generalize hp : (1626 - a + b) % 1626 = p
  generalize hq : (1626 - b + c) % 1626 = q
  have hab : (a + p) % 1626 = b := by omega
  have hbc : (b + q) % 1626 = c := by omega
  have hp' : p < 1626 := by omega
  have h1 : (a + 1626 * p + 1626 * 1626 * q) % 1626 = a := by omega
  have h2 : (a + 1626 * p + 1626 * 1626 * q) / 1626 % 1626 = p := by omega
  have h3 : (a + 1626 * p + 1626 * 1626 * q) / (1626 * 1626) = q := by omega
  simp only [decodeGroup, wordsList, h1, h2, h3, hab, hbc]

theorem decodeKey_bytes_append (n : Nat) (more : List UInt8) :
    decodeKey ((List.range 4).map (fun i => (n / 256 ^ i % 256).toUInt8) ++ more) =
      decodeGroup (fromBytesLE ((List.range 4).map fun i => (n / 256 ^ i % 256).toUInt8)) ++
        decodeKey more := rfl

/-! ## key の読み戻し -/

/-- **loop が書いた key から、位置の列が戻る。** 位置はどれも 1626 未満で、数は 3 の倍数とする。 -/
theorem decodeKey_encodeGroups : ∀ {l : List Nat} {key : List UInt8}, l.length % 3 = 0 →
    (∀ i ∈ l, i < wordsList) → encodeGroups l = .ok key → decodeKey key = l
  | [], _, _, _, h => by cases h; rfl
  | [_], _, h3, _, _ | [_, _], _, h3, _, _ => by simp at h3
  | a :: b :: c :: rest, key, h3, hl, h => by
    have hlt : ∀ i ∈ [a, b, c], i < wordsList := fun i hi => hl i (List.mem_append_left rest hi)
    obtain ⟨hv, more, hmore, rfl⟩ := encodeGroups_cons_ok (hlt a (by simp)) h
    rw [decodeKey_bytes_append, fromBytesLE_bytes (by have := groupValue_nonneg a b c; omega),
      decodeGroup_groupValue (hlt a (by simp)) (hlt b (by simp)) (hlt c (by simp)),
      decodeKey_encodeGroups (by simp only [List.length_cons] at h3; omega)
        (fun i hi => hl i (List.mem_append_right [a, b, c] hi)) hmore]
    rfl

/--
**`words_to_key` が返した key から、はじめの 24 語の位置が戻る。** word list は 1626 語以下とする。
-/
theorem decodeKey_of_wordsToKey {wordList words : List (List Char)} {key : List UInt8}
    (hwl : wordList.length ≤ wordsList) (h : wordsToKey wordList words = .ok key) :
    (words.take seedLength).map (fun x => listIndex (lowerWord x) wordList) =
      (decodeKey key).map some := by
  obtain ⟨hlen, idx, hidx, hkey⟩ := wordsToKey_ok_inv h
  obtain ⟨hn, hlt⟩ := wordIndices_ok hidx
  rw [decodeKey_encodeGroups (by rw [hn, length_take_seedLength hlen])
      (fun i hi => (hlt i hi).trans_le hwl) hkey,
    ← wordIndices_ok_map hidx, ← List.map_take, List.map_map]
  rfl

/--
**同じ key を返す二つの seed は、はじめの 24 語の word list の位置が等しい。** word list は
`WORDS_LIST` = 1626 語以下とする。
-/
theorem wordsToKey_injective {wordList w w' : List (List Char)} {key : List UInt8}
    (hwl : wordList.length ≤ wordsList) (h : wordsToKey wordList w = .ok key)
    (h' : wordsToKey wordList w' = .ok key) :
    (w.take seedLength).map (fun x => listIndex (lowerWord x) wordList) =
      (w'.take seedLength).map (fun x => listIndex (lowerWord x) wordList) := by
  rw [decodeKey_of_wordsToKey hwl h, decodeKey_of_wordsToKey hwl h']

theorem wordsToKey_injective_abbey :
    ["abbey".toList, "abducts".toList].length ≤ wordsList ∧
      wordsToKey ["abbey".toList, "abducts".toList] (List.replicate 24 "abbey".toList) =
        .ok (List.replicate 32 0) ∧
      wordsToKey ["abbey".toList, "abducts".toList]
          (List.replicate 24 "Abbey".toList ++ ["abducts".toList]) = .ok (List.replicate 32 0) ∧
      ((List.replicate 24 "abbey".toList).take seedLength).map
          (fun x => listIndex (lowerWord x) ["abbey".toList, "abducts".toList]) =
        ((List.replicate 24 "Abbey".toList ++ ["abducts".toList]).take seedLength).map
          (fun x => listIndex (lowerWord x) ["abbey".toList, "abducts".toList]) :=
  ⟨by decide, rfl, rfl, wordsToKey_injective (by decide) rfl rfl⟩

end Tos.Wallet
