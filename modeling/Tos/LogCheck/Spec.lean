import Tos.LogCheck.CheckFile

/-!
# `check_file` の宣言的な定義

`check_file` の loop は状態（`Tracker`）と look-ahead（`joinFrom`）で書かれている。
ここでは同じ finding の列を、行の番号だけを使って書き直す（`specFindings`）。
行 `i` が finding になるのは、次の四つが成り立つときである。

1. 行 `i` は guard の行でない。
2. 行 `i` は log macro の呼び出しで始まる（level `lv`）。
3. 行 `i` から始まる文（`joinedStmt`）に `{` と、その後ろの `}` がある。
4. 行 `i` の時点で level `lv` の guard が開いていない（`GuardOpen` でない）。

文は、`(` と `)` の差が 0 以下になる最初の行 `j ≥ i` まで、なければ最後の行までである。
guard が開いているとは、行 `i` より前の最後の guard の行 `k` が level `lv` で、
`k < m ≤ i` のどの `m` についても行 `k` から `m` までの `{` と `}` の差が正であることをいう。

## 証明の形

* 連結：`joinFrom` が何行を足すかを数え（`joinLen`）、それが「差が 0 以下になる最初の行」であることを、
  残りの行の列についての帰納法で示す（`joinedStmt_eq`）。
* 追跡：`Tracker` の表すもの（`Tracker.view`）が、読んだ行の番号で書いた条件と一致することを
  不変条件 `TrackerInv` にし、一行ごとに保たれることを示す（`TrackerInv.step`）。
* 二つを合わせ、loop の各行が `specEntry` と同じものを出すことから、列全体が等しい
  （`checkLines_eq_spec`）。
-/

namespace Tos.LogCheck

/-! ## 行の範囲の数え上げ -/

/-- 行 `k` から行 `m` までの、一行ごとの差 `δ` の和。 -/
def rangeCount (δ : Line → Int) (lines : List Line) (k m : Nat) : Int :=
  (((lines.drop k).take (m + 1 - k)).map δ).sum

/-- 行 `k` から行 `m` までの `{` と `}` の差。 -/
def braceCount (lines : List Line) (k m : Nat) : Int := rangeCount braceDelta lines k m

/-- 行 `i` から行 `j` までの `(` と `)` の差。 -/
def parenCount (lines : List Line) (i j : Nat) : Int := rangeCount parenDelta lines i j

section RangeCount

variable {δ : Line → Int} (hδ : δ [] = 0) (lines : List Line)
include hδ

theorem rangeCount_self (k : Nat) : rangeCount δ lines k k = δ (lines.getD k []) := by
  rw [rangeCount, Nat.add_sub_cancel_left, List.take_one, List.head?_drop,
    List.getD_eq_getElem?_getD]
  cases lines[k]? <;> simp [hδ]

theorem rangeCount_succ {k m : Nat} (h : k ≤ m) :
    rangeCount δ lines k (m + 1) = rangeCount δ lines k m + δ (lines.getD (m + 1) []) := by
  rw [rangeCount, rangeCount, show m + 1 + 1 - k = (m + 1 - k) + 1 by omega, List.take_succ,
    List.map_append, List.sum_append, List.getElem?_drop, show k + (m + 1 - k) = m + 1 by omega,
    List.getD_eq_getElem?_getD]
  cases lines[m + 1]? <;> simp [hδ]

end RangeCount

/-! ## 宣言的な定義 -/

/-- 行 `i` から始まる文の最後の行。差が 0 以下になる最初の行 `j ≥ i`、なければ最後の行。 -/
def stmtEnd (lines : List Line) (i : Nat) : Nat :=
  ((List.range' i (lines.length - i)).find? fun j => parenCount lines i j ≤ 0).getD
    (lines.length - 1)

/-- 行 `i` から `stmtEnd` までをつないだ文。 -/
def joinedStmt (lines : List Line) (i : Nat) : List Char :=
  ((lines.drop i).take (stmtEnd lines i + 1 - i)).flatten

/--
条件 4 の否定の中身：行 `i` の時点で level `lv` の guard が開いている。

行 `k < i` の最初の一致の level が `lv` で、`k` と `i` の間に guard の行がなく、
`k < m ≤ i` のどの `m` でも行 `k` から `m` までの `{` と `}` の差が正である。
-/
def GuardOpen (lines : List Line) (i : Nat) (lv : Level) : Prop :=
  ∃ k < i, guardLevel (lines.getD k []) = some lv.name ∧
    (∀ k' < i, k < k' → guardLevel (lines.getD k' []) = none) ∧
    ∀ m < i + 1, k < m → 0 < braceCount lines k m

instance (lines : List Line) (i : Nat) (lv : Level) : Decidable (GuardOpen lines i lv) := by
  delta GuardOpen; infer_instance

/-- 行 `i` が出す finding。 -/
def specEntry (relPath : List Char) (lines : List Line) (i : Nat) : Option UnoptimizedLog :=
  match guardLevel (lines.getD i []), logMatch (lines.getD i []) with
  | none, some lv =>
    if hasPlaceholder (joinedStmt lines i) = true ∧ ¬ GuardOpen lines i lv then
      some { filePath := relPath, lineNumber := i + 1, logLevel := lv,
             content := (joinedStmt lines i).take 200,
             isHotPath := isHotPath relPath, isTest := isTestFile relPath }
    else none
  | _, _ => none

/-- finding の列：行の番号の順に `specEntry` を集めたもの。 -/
def specFindings (relPath : List Char) (lines : List Line) : List UnoptimizedLog :=
  (List.range lines.length).filterMap (specEntry relPath lines)

/-! ## 連結 -/

/-- `joinFrom d ls` が足す行の数。 -/
def joinLen : Int → List Line → Nat
  | _, [] => 0
  | d, l :: ls => if 0 < d then joinLen (d + parenDelta l) ls + 1 else 0

theorem joinFrom_eq_take (d : Int) (ls : List Line) :
    joinFrom d ls = (ls.take (joinLen d ls)).flatten := by
  induction ls generalizing d with
  | nil => rfl
  | cons l ls ih =>
    simp only [joinFrom, joinLen]
    split <;> simp [ih]

/-- **足す行の数は、差が 0 以下になる最初の位置である。** なければ全部の行を足す。 -/
theorem joinLen_eq_find (d : Int) (ls : List Line) :
    joinLen d ls = ((List.range (ls.length + 1)).find?
      fun t => d + ((ls.take t).map parenDelta).sum ≤ 0).getD ls.length := by
  induction ls generalizing d with
  | nil => by_cases h : d ≤ 0 <;> simp [joinLen, h, List.range_succ]
  | cons l ls ih =>
    rw [List.length_cons, List.range_succ_eq_map, List.find?_cons]
    by_cases h : d ≤ 0
    · simp [joinLen, h]
    · simp only [joinLen, if_pos (show 0 < d by omega), ih, List.take_zero, List.map_nil,
        List.sum_nil, add_zero, h, decide_False, List.find?_map]
      rw [show ls.length + 1 = Nat.succ ls.length from rfl, Option.getD_map]
      simp only [Nat.succ_eq_add_one, Function.comp_def, List.take_succ_cons, List.map_cons,
        List.sum_cons, add_assoc]

theorem stmtEnd_sub (lines : List Line) {i : Nat} (hi : i < lines.length) :
    stmtEnd lines i + 1 - i =
      joinLen (parenDelta (lines.getD i [])) (lines.drop (i + 1)) + 1 := by
  have hterm : ∀ t, parenCount lines i (i + t) =
      parenDelta (lines.getD i []) + (((lines.drop (i + 1)).take t).map parenDelta).sum := by
    intro t
    rw [parenCount, rangeCount, List.drop_eq_getElem_cons hi, show i + t + 1 - i = t + 1 by omega,
      List.take_succ_cons, List.map_cons, List.sum_cons, List.getD_eq_getElem _ _ hi]
  have hlen : lines.length - i = (lines.drop (i + 1)).length + 1 := by
    rw [List.length_drop]; omega
  rw [joinLen_eq_find, stmtEnd, List.range'_eq_map_range, List.find?_map, hlen]
  simp only [Function.comp_def, hterm]
  cases List.find? _ _ <;>
    simp only [Option.map_none', Option.map_some', Option.getD_none, Option.getD_some] <;> omega

/-- **連結した文は、log の行に `joinFrom` が足したものである。** -/
theorem joinedStmt_eq (lines : List Line) {i : Nat} (hi : i < lines.length) :
    joinedStmt lines i = fullStatement (lines.getD i []) (lines.drop (i + 1)) := by
  rw [joinedStmt, stmtEnd_sub lines hi, List.drop_eq_getElem_cons hi, List.take_succ_cons,
    List.flatten_cons, fullStatement, joinFrom_eq_take, List.getD_eq_getElem _ _ hi]

/-! ## 追跡 -/

/-- `Tracker` が表すもの：開いている guard の level と深さ。 -/
def Tracker.view (t : Tracker) : Option (List Char × Int) :=
  if t.inBlock then t.level.map fun g => (g, t.depth) else none

theorem Tracker.view_enter (g : List Char) (line : Line) :
    (Tracker.enter g line).view = some (g, braceDelta line) := rfl

/-- `track` は開いている guard の深さを足し、0 以下なら閉じる。 -/
theorem Tracker.view_track (t : Tracker) (line : Line) :
    (t.track line).view = t.view.bind fun p =>
      if p.2 + braceDelta line ≤ 0 then none else some (p.1, p.2 + braceDelta line) := by
  obtain ⟨b, l, d⟩ := t
  cases b
  · rfl
  · by_cases h : d + braceDelta line ≤ 0 <;> cases l <;> simp [Tracker.track, Tracker.view, h]

theorem Tracker.isWrapped_iff (t : Tracker) (lv : Level) :
    t.isWrapped lv = true ↔ ∃ d, t.view = some (lv.name, d) := by
  obtain ⟨b, l, d⟩ := t
  cases b
  · simp [Tracker.isWrapped, Tracker.view]
  · cases l with
    | none => simp [Tracker.isWrapped, Tracker.view]
    | some l =>
      simp only [Tracker.isWrapped, Tracker.view, Bool.true_and, Bool.and_eq_true,
        Bool.not_eq_true', beq_iff_eq, if_true, Option.map_some', Option.some.injEq,
        Prod.mk.injEq, exists_and_left, exists_eq', and_true]
      exact ⟨And.right, fun h => ⟨by rw [h]; cases lv <;> rfl, h⟩⟩

/-- 行 `k` は、行 `s` より前の最後の guard の行である。 -/
def LastGuard (lines : List Line) (s k : Nat) : Prop :=
  k < s ∧ guardLevel (lines.getD k []) ≠ none ∧
    ∀ k' < s, k < k' → guardLevel (lines.getD k' []) = none

/-- 行 `k` から行 `s` より前のどの行 `m` までも、`{` と `}` の差が正である。 -/
def StaysOpen (lines : List Line) (s k : Nat) : Prop :=
  ∀ m < s, k < m → 0 < braceCount lines k m

/-- 行 `0 .. s-1` を読んだ後、開いている guard がない。 -/
def NoOpenGuard (lines : List Line) (s : Nat) : Prop :=
  ∀ k < s, LastGuard lines s k → ¬ StaysOpen lines s k

instance (lines : List Line) (s k : Nat) : Decidable (LastGuard lines s k) := by
  delta LastGuard; infer_instance

instance (lines : List Line) (s k : Nat) : Decidable (StaysOpen lines s k) := by
  delta StaysOpen; infer_instance

instance (lines : List Line) (s : Nat) : Decidable (NoOpenGuard lines s) := by
  delta NoOpenGuard; infer_instance

/--
行 `0 .. s-1` を読んだ後の `Tracker` の不変条件。

guard が開いているのは、最後の guard の行 `k` から差が正のままのときに限り、
そのときの level は行 `k` の level、深さは行 `k` から行 `s - 1` までの差である。
-/
def TrackerInv (lines : List Line) (s : Nat) (t : Tracker) : Prop :=
  ∀ g d, t.view = some (g, d) ↔ ∃ k, LastGuard lines s k ∧ StaysOpen lines s k ∧
    guardLevel (lines.getD k []) = some g ∧ d = braceCount lines k (s - 1)

section Tracking

variable {lines : List Line} {s k : Nat}

theorem LastGuard.unique {k₁ k₂ : Nat} (h₁ : LastGuard lines s k₁) (h₂ : LastGuard lines s k₂) :
    k₁ = k₂ := by
  obtain ⟨hk₁, hg₁, hn₁⟩ := h₁
  obtain ⟨hk₂, hg₂, hn₂⟩ := h₂
  rcases Nat.lt_trichotomy k₁ k₂ with h | h | h
  · exact absurd (hn₁ k₂ hk₂ h) hg₂
  · exact h
  · exact absurd (hn₂ k₁ hk₁ h) hg₁

theorem lastGuard_succ_of_guard (hx : guardLevel (lines.getD s []) ≠ none) :
    LastGuard lines (s + 1) k ↔ k = s := by
  constructor
  · rintro ⟨hk, -, hn⟩
    by_contra hne
    exact hx (hn s (by omega) (by omega))
  · rintro rfl
    exact ⟨by omega, hx, fun k' hk' hlt => absurd hk' (by omega)⟩

theorem lastGuard_succ_of_not_guard (hx : guardLevel (lines.getD s []) = none) :
    LastGuard lines (s + 1) k ↔ LastGuard lines s k := by
  constructor
  · rintro ⟨hk, hg, hn⟩
    have hks : k ≠ s := fun h => hg (h ▸ hx)
    exact ⟨by omega, hg, fun k' hk' hlt => hn k' (by omega) hlt⟩
  · rintro ⟨hk, hg, hn⟩
    refine ⟨by omega, hg, fun k' hk' hlt => ?_⟩
    rcases Nat.lt_succ_iff_lt_or_eq.mp hk' with h | rfl
    · exact hn k' h hlt
    · exact hx

theorem braceCount_last (hk : k < s) :
    braceCount lines k s = braceCount lines k (s - 1) + braceDelta (lines.getD s []) := by
  have h := rangeCount_succ braceDelta_nil lines (show k ≤ s - 1 by omega)
  rwa [Nat.sub_add_cancel (by omega)] at h

theorem staysOpen_succ (hk : k < s) :
    StaysOpen lines (s + 1) k ↔ StaysOpen lines s k ∧ 0 < braceCount lines k s := by
  constructor
  · intro h
    exact ⟨fun m hm hkm => h m (by omega) hkm, h s (by omega) hk⟩
  · rintro ⟨h, hs⟩ m hm hkm
    rcases Nat.lt_succ_iff_lt_or_eq.mp hm with hm | rfl
    · exact h m hm hkm
    · exact hs

theorem TrackerInv.init : TrackerInv lines 0 Tracker.init := by
  intro g d
  simp [Tracker.view, Tracker.init, LastGuard]

/-- guard の行は、開いている guard をその行のものに置き換える。 -/
theorem TrackerInv.step_guard {t : Tracker} {g' : List Char}
    (hx : guardLevel (lines.getD s []) = some g') :
    TrackerInv lines (s + 1) (t.step (lines.getD s [])) := by
  intro g d
  rw [Tracker.step_of_guard hx, Tracker.view_enter]
  simp only [lastGuard_succ_of_guard (hx ▸ Option.some_ne_none g'), Option.some.injEq,
    Prod.mk.injEq, exists_eq_left, Nat.add_sub_cancel, hx,
    rangeCount_self braceDelta_nil, braceCount]
  constructor
  · rintro ⟨rfl, rfl⟩
    exact ⟨fun m hm hsm => absurd hm (by omega), rfl, rfl⟩
  · rintro ⟨-, rfl, rfl⟩
    exact ⟨rfl, rfl⟩

/-- guard でない行は、開いている guard の深さを足し、0 以下なら閉じる。 -/
theorem TrackerInv.step_track {t : Tracker} (h : TrackerInv lines s t)
    (hx : guardLevel (lines.getD s []) = none) :
    TrackerInv lines (s + 1) (t.step (lines.getD s [])) := by
  intro g d
  rw [Tracker.step_of_not_guard hx, Tracker.view_track]
  simp only [lastGuard_succ_of_not_guard hx, Nat.add_sub_cancel]
  cases hv : t.view with
  | none =>
    simp only [Option.none_bind, reduceCtorEq, false_iff, not_exists, not_and]
    intro k hl ho hg
    cases hv.symm.trans ((h _ _).mpr ⟨k, hl, ((staysOpen_succ hl.1).mp ho).1, hg, rfl⟩)
  | some p =>
    obtain ⟨g₀, d₀⟩ := p
    obtain ⟨k₀, hl₀, ho₀, hg₀, rfl⟩ := (h g₀ d₀).mp hv
    have hcount : braceCount lines k₀ s = braceCount lines k₀ (s - 1) +
        braceDelta (lines.getD s []) := braceCount_last hl₀.1
    simp only [Option.some_bind]
    constructor
    · intro hs
      split at hs
      · cases hs
      · obtain ⟨rfl, rfl⟩ := Prod.mk.inj (Option.some.inj hs)
        exact ⟨k₀, hl₀, (staysOpen_succ hl₀.1).mpr ⟨ho₀, by omega⟩, hg₀, hcount.symm⟩
    · rintro ⟨k, hl, ho, hg, rfl⟩
      obtain rfl := hl.unique hl₀
      have hpos := ((staysOpen_succ hl.1).mp ho).2
      rw [if_neg (by omega), hcount, Option.some.inj (hg₀.symm.trans hg)]

theorem TrackerInv.step {t : Tracker} (h : TrackerInv lines s t) :
    TrackerInv lines (s + 1) (t.step (lines.getD s [])) := by
  cases hx : guardLevel (lines.getD s []) with
  | some g' => exact TrackerInv.step_guard hx
  | none => exact h.step_track hx

end Tracking

/-! ## loop と宣言的な定義 -/

section Refinement

variable (relPath : List Char) {lines : List Line} {s : Nat}

/-- 行 `s` を `track` した後の `is_wrapped` は、条件 4 の `GuardOpen` である。 -/
theorem isWrapped_track_iff {t : Tracker} (h : TrackerInv lines s t)
    (hx : guardLevel (lines.getD s []) = none) (lv : Level) :
    (t.track (lines.getD s [])).isWrapped lv = true ↔ GuardOpen lines s lv := by
  have h' := h.step
  rw [Tracker.step_of_not_guard hx] at h'
  rw [Tracker.isWrapped_iff]
  constructor
  · rintro ⟨d, hv⟩
    obtain ⟨k, hl, ho, hg, -⟩ := (h' _ _).mp hv
    obtain ⟨hk, -, hn⟩ := (lastGuard_succ_of_not_guard hx).mp hl
    exact ⟨k, hk, hg, hn, ho⟩
  · rintro ⟨k, hk, hg, hn, ho⟩
    exact ⟨_, (h' _ _).mpr
      ⟨k, (lastGuard_succ_of_not_guard hx).mpr ⟨hk, by rw [hg]; exact Option.some_ne_none _, hn⟩,
        ho, hg, rfl⟩⟩

/-- loop の一行は、宣言的な定義と同じものを出す。 -/
theorem lineEntry_eq_spec {t : Tracker} (h : TrackerInv lines s t) (hs : s < lines.length) :
    lineEntry relPath t s (lines.getD s []) (lines.drop (s + 1)) = specEntry relPath lines s := by
  unfold lineEntry specEntry
  cases hx : guardLevel (lines.getD s []) with
  | some g => rfl
  | none =>
    unfold logEntry
    cases hm : logMatch (lines.getD s []) with
    | none => rfl
    | some lv =>
      simp only [← joinedStmt_eq lines hs, ← isWrapped_track_iff h hx lv, Bool.and_eq_true,
        Bool.not_eq_true', Bool.not_eq_true]

/-- **loop の残りは、残りの行の `specEntry` を集めたものである。** -/
theorem checkLines_eq_spec : ∀ n s (t : Tracker), lines.length - s = n → TrackerInv lines s t →
    checkLines relPath t s (lines.drop s) = (List.range' s n).filterMap (specEntry relPath lines)
  | 0, s, t, hn, _ => by rw [List.drop_eq_nil_of_le (by omega)]; rfl
  | n + 1, s, t, hn, h => by
    have hs : s < lines.length := by omega
    rw [List.drop_eq_getElem_cons hs, ← List.getD_eq_getElem _ [] hs, checkLines_cons,
      List.range'_succ, List.filterMap_cons, lineEntry_eq_spec relPath h hs,
      checkLines_eq_spec n (s + 1) _ (by omega) h.step]
    cases specEntry relPath lines s <;> rfl

theorem logsOf_checkFile_eq_spec (lines : List Line) :
    logsOf (checkFile relPath (some lines)) = specFindings relPath lines := by
  rw [logsOf_checkFile, specFindings, List.range_eq_range',
    ← checkLines_eq_spec relPath lines.length 0 Tracker.init (by simp) TrackerInv.init]
  rfl

end Refinement

/-! ## finding の特徴づけ -/

/-- 行 `i` が出す finding は、条件 1〜4 と、その行から決まる中身で尽くされる。 -/
theorem specEntry_eq_some {relPath : List Char} {lines : List Line} {i : Nat}
    {f : UnoptimizedLog} :
    specEntry relPath lines i = some f ↔ ∃ lv, guardLevel (lines.getD i []) = none ∧
      logMatch (lines.getD i []) = some lv ∧ hasPlaceholder (joinedStmt lines i) = true ∧
      ¬ GuardOpen lines i lv ∧
      f = { filePath := relPath, lineNumber := i + 1, logLevel := lv,
            content := (joinedStmt lines i).take 200,
            isHotPath := isHotPath relPath, isTest := isTestFile relPath } := by
  unfold specEntry
  cases guardLevel (lines.getD i []) <;> cases logMatch (lines.getD i []) <;> simp
  exact ⟨fun ⟨h, e⟩ => ⟨h.1, h.2, e.symm⟩, fun ⟨h₁, h₂, e⟩ => ⟨⟨h₁, h₂⟩, e.symm⟩⟩

theorem mem_specFindings {relPath : List Char} {lines : List Line} {f : UnoptimizedLog} :
    f ∈ specFindings relPath lines ↔ ∃ i < lines.length, specEntry relPath lines i = some f := by
  simp [specFindings]

/-- **`check_file` は宣言的な定義と同じ finding の列を返す。** -/
theorem checkFile_eq_specFindings (relPath : List Char) (lines : List Line) :
    logsOf (checkFile relPath (some lines)) = specFindings relPath lines :=
  logsOf_checkFile_eq_spec relPath lines

end Tos.LogCheck
