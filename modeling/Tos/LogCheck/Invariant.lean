import Tos.LogCheck.Fix
import Tos.LogCheck.Scan

/-!
# scan を通して保たれる形

`check_file` が返す `FileStats` と、`scan_directory` を何度呼んだ後の `files` が、どんな形を
しているか。

## 一つのファイル

`check_file` の finding は行の番号の順に並び、一つの行から高々一つで、番号はファイルの行を指す
（`checkFile_lineNumbers`）。`content` はその行から始まるファイルの文字の頭である
（`checkFile_content`）。`is_hot` と `is_test` は loop の前に path から一度だけ計算されるので、
どの finding もそのファイルの path と、path の印を持つ（`FileStats.WF`）。

## 状態

`Checker.WF`：`files` の key は重ならず、各 key の `FileStats` はその key を path とする上の形で、
`files` が空であるのは `total_logs` が 0 のときに限り、記録された件数の和は `total_logs` を
超えない（置き換えられた記録の件数も `total_logs` に残るので）。新しい checker はこの形をしており、
`scan_directory` の loop の一回がこれを保つので、何度 scan しても保たれる（`scanAll_wf`）。

## 帰結

`get_summary` の `hot_path` と `test` は finding ごとの印を数えるが、この形の下では、path で
分けたファイルの件数の和になる（`Checker.WF.hotPath_eq`、`Checker.WF.test_eq`）。
-/

namespace Tos.LogCheck

/-! ## 一つのファイル -/

/-- `check_file` が返す `FileStats` の形。 -/
structure FileStats.WF (s : FileStats) : Prop where
  nonempty : s.logs ≠ []
  file : ∀ l ∈ s.logs,
    l.filePath = s.path ∧ l.isHotPath = isHotPath s.path ∧ l.isTest = isTestFile s.path
  sorted : s.logs.Pairwise fun a b => a.lineNumber < b.lineNumber

theorem checkLines_eq_specFindings (relPath : List Char) (lines : List Line) :
    checkLines relPath Tracker.init 0 lines = specFindings relPath lines :=
  (logsOf_checkFile relPath lines).symm.trans (logsOf_checkFile_eq_spec relPath lines)

/-- `check_file` が値を返すのは、内容が読めて finding があるときで、値はその finding の列である。 -/
theorem checkFile_eq_some {relPath : List Char} {content : Option (List Line)} {s : FileStats} :
    checkFile relPath content = some s ↔ ∃ lines, content = some lines ∧
      specFindings relPath lines ≠ [] ∧ s = ⟨relPath, specFindings relPath lines⟩ := by
  cases content with
  | none => simp [checkFile]
  | some lines =>
    simp only [checkFile, checkLines_eq_specFindings, Option.some.injEq, exists_eq_left']
    split
    · next h => exact iff_of_false (by simp) fun ⟨hne, _⟩ => hne (List.isEmpty_iff.mp h)
    · next h => exact ⟨fun e => ⟨fun hn => h (List.isEmpty_iff.mpr hn), (Option.some.inj e).symm⟩,
        fun ⟨_, e⟩ => by rw [e]⟩

theorem specFindings_pairwise (relPath : List Char) (lines : List Line) :
    (specFindings relPath lines).Pairwise fun a b => a.lineNumber < b.lineNumber := by
  rw [specFindings, List.pairwise_filterMap]
  refine (List.pairwise_lt_range _).imp fun hij f hf g hg => ?_
  obtain ⟨-, -, -, -, -, rfl⟩ := specEntry_eq_some.mp hf
  obtain ⟨-, -, -, -, -, rfl⟩ := specEntry_eq_some.mp hg
  exact Nat.succ_lt_succ hij

/--
**`check_file` は一つの行から高々一つの finding を、行の番号の順に出す。** 番号はどれも
ファイルの行を指す。
-/
theorem checkFile_lineNumbers (relPath : List Char) (lines : List Line) :
    (logsOf (checkFile relPath (some lines))).Pairwise (fun a b => a.lineNumber < b.lineNumber) ∧
      ∀ f ∈ logsOf (checkFile relPath (some lines)), 0 < f.lineNumber ∧ f.lineNumber ≤ lines.length := by
  rw [logsOf_checkFile_eq_spec]
  exact ⟨specFindings_pairwise relPath lines, fun f hf => lineNumber_le_of_mem relPath hf⟩

/-- 文の頭の 200 文字は、その行の頭の 200 文字から始まり、その行から後ろのファイルの文字である。 -/
theorem take_joinedStmt {lines : List Line} {i : Nat} (hi : i < lines.length) :
    (lines.getD i []).take 200 <+: (joinedStmt lines i).take 200 ∧
      (joinedStmt lines i).take 200 <+: (lines.drop i).flatten := by
  refine ⟨?_, (List.take_prefix _ _).trans ?_⟩
  · rw [joinedStmt_eq lines hi, fullStatement, List.take_append_eq_append_take]
    exact List.prefix_append _ _
  · conv_rhs => rw [← List.take_append_drop (stmtEnd lines i + 1 - i) (lines.drop i)]
    rw [joinedStmt, List.flatten_append]
    exact List.prefix_append _ _

/--
**finding の `content` は、その行から始まるファイルの文字である。** `check_file` のどの finding の
`content` も 200 文字以下で、報告された行の頭（200 文字まで）から始まり、その行から後ろのファイルの
文字をつないだものの頭である。
-/
theorem checkFile_content (relPath : List Char) (lines : List Line) :
    ∀ f ∈ logsOf (checkFile relPath (some lines)), f.content.length ≤ 200 ∧
      (lines.getD (f.lineNumber - 1) []).take 200 <+: f.content ∧
      f.content <+: (lines.drop (f.lineNumber - 1)).flatten := by
  rw [logsOf_checkFile_eq_spec]
  intro f hf
  obtain ⟨i, hi, he⟩ := mem_specFindings.mp hf
  obtain ⟨lv, -, -, -, -, rfl⟩ := specEntry_eq_some.mp he
  exact ⟨List.length_take_le _ _, take_joinedStmt hi⟩

/-- 二行にわたる Debug の呼び出し。 -/
def twoLineCallFile : List Line := ["debug!(\"\x7b\x7d\",".toList, "  a);".toList]

/-- その finding。`content` は二行をつないだものである。 -/
def twoLineCallFinding : UnoptimizedLog :=
  ⟨"a.rs".toList, 1, .debug, "debug!(\"\x7b\x7d\",  a);".toList, false, false⟩

theorem checkFile_content_twoLineCall :
    twoLineCallFinding ∈ logsOf (checkFile "a.rs".toList (some twoLineCallFile)) ∧
      twoLineCallFinding.content.length ≤ 200 ∧
      (twoLineCallFile.getD (twoLineCallFinding.lineNumber - 1) []).take 200 <+:
        twoLineCallFinding.content ∧
      twoLineCallFinding.content <+:
        (twoLineCallFile.drop (twoLineCallFinding.lineNumber - 1)).flatten :=
  have h : twoLineCallFinding ∈ logsOf (checkFile "a.rs".toList (some twoLineCallFile)) := by
    decide
  ⟨h, checkFile_content _ _ _ h⟩

theorem specFindings_file {relPath : List Char} {lines : List Line} {l : UnoptimizedLog}
    (hl : l ∈ specFindings relPath lines) :
    l.filePath = relPath ∧ l.isHotPath = isHotPath relPath ∧ l.isTest = isTestFile relPath := by
  obtain ⟨i, -, he⟩ := mem_specFindings.mp hl
  obtain ⟨lv, -, -, -, -, rfl⟩ := specEntry_eq_some.mp he
  exact ⟨rfl, rfl, rfl⟩

/-- `check_file` の返す `FileStats` は、渡した path を持つ上の形である。 -/
theorem checkFile_wf {relPath : List Char} {content : Option (List Line)} {s : FileStats}
    (h : checkFile relPath content = some s) : s.path = relPath ∧ s.WF := by
  obtain ⟨lines, -, hne, rfl⟩ := checkFile_eq_some.mp h
  exact ⟨rfl, hne, fun l hl => specFindings_file hl, specFindings_pairwise relPath lines⟩

theorem recordOf_wf {rootDir : List Char} {f : RsFile} {s : FileStats}
    (h : recordOf rootDir f = some s) : s.WF := by
  unfold recordOf at h
  split at h
  · cases h
  · exact (checkFile_wf h).2

theorem FileStats.WF.count_pos {s : FileStats} (hs : s.WF) : 0 < s.count :=
  List.length_pos.mpr hs.nonempty

/-! ## 状態 -/

/-- scan の後の `LogOptimizationChecker` の形。 -/
structure Checker.WF (c : Checker) : Prop where
  nodup : (c.files.map Prod.fst).Nodup
  entry : ∀ p ∈ c.files, p.2.path = p.1 ∧ p.2.WF
  empty : c.files = [] ↔ c.totalLogs = 0
  sum_le : (c.files.map fun p => p.2.count).sum ≤ c.totalLogs

theorem Checker.WF.new (rootDir : List Char) : (Checker.new rootDir).WF :=
  ⟨List.nodup_nil, fun _ h => absurd h (List.not_mem_nil _), iff_of_true rfl rfl, le_rfl⟩

theorem Checker.WF.store {c : Checker} {s : FileStats} (hc : c.WF) (hs : s.WF) : (c.store s).WF where
  nodup := nodup_keys_dictSet hc.nodup _ _
  entry p hp := by
    rcases mem_dictSet hp with hp | rfl
    · exact hc.entry p hp
    · exact ⟨rfl, hs⟩
  empty := by
    have hk := (mem_keys_dictSet c.files s.path s.path s).mpr (.inr rfl)
    have := hs.count_pos
    rw [Checker.files_store, Checker.totalLogs_store]
    exact iff_of_false (fun h => by rw [h] at hk; cases hk) (by omega)
  sum_le := by
    have := sum_dictSet FileStats.count c.files s.path s
    have := hc.sum_le
    rw [Checker.files_store, Checker.totalLogs_store]
    omega

/-- loop の一回は形を保つ。 -/
theorem Checker.WF.scanFile {c : Checker} (hc : c.WF) (f : RsFile) : (c.scanFile f).WF := by
  rw [Checker.scanFile_eq]
  cases h : recordOf c.rootDir f with
  | none => exact hc
  | some s => exact hc.store (recordOf_wf h)

theorem Checker.WF.scanAll {c : Checker} (hc : c.WF) (trees : List (List RsFile)) :
    (c.scanAll trees).WF := by
  rw [Checker.scanAll_eq, Checker.scanDirectory]
  induction trees.flatten generalizing c with
  | nil => exact hc
  | cons f tree ih => exact ih (hc.scanFile f)

/--
**何度 scan しても、状態は `Checker.WF` の形をしている。** 新しい checker で `scan_directory` を
どう続けて呼んでも（呼ぶたびにファイルの内容が変わっても）、`files` の key は重ならず、各 key の
`FileStats` はその key を path とし、finding を一つ以上持ち、どの finding もその path と path の印を
持ち、行の番号の順に並ぶ。`files` が空であるのは `total_logs` が 0 のときに限り、記録された
件数の和は `total_logs` 以下である。
-/
theorem scanAll_wf (rootDir : List Char) (trees : List (List RsFile)) :
    ((Checker.new rootDir).scanAll trees).WF :=
  (Checker.WF.new rootDir).scanAll trees

/-- 記録の finding は、その key を path に持ち、その path の印を持つ。 -/
theorem Checker.WF.log_of_mem {c : Checker} (hc : c.WF) {p : List Char × FileStats}
    (hp : p ∈ c.files) {l : UnoptimizedLog} (hl : l ∈ p.2.logs) :
    l.filePath = p.1 ∧ l.isHotPath = isHotPath p.1 ∧ l.isTest = isTestFile p.1 := by
  rw [← (hc.entry p hp).1]
  exact (hc.entry p hp).2.file l hl

/-! ## path の印の数え上げ -/

theorem sum_map_filter {γ : Type} (l : List γ) (P : γ → Bool) (g : γ → Nat) :
    ((l.filter P).map g).sum = (l.map fun x => if P x then g x else 0).sum := by
  induction l with
  | nil => rfl
  | cons x l ih => cases h : P x <;> simp [List.filter_cons, h, ih]

/-- どの finding でも同じ印なら、印のある finding の数は、印があれば全部、なければ 0。 -/
theorem countP_of_forall {L : List UnoptimizedLog} (q : UnoptimizedLog → Bool) {b : Bool}
    (hq : ∀ l ∈ L, q l = b) : L.countP q = if b then L.length else 0 := by
  cases b with
  | false => exact List.countP_eq_zero.mpr fun l hl => by rw [hq l hl]; decide
  | true => exact List.countP_eq_length.mpr hq

/-- 印の数え上げを、path で分けたファイルの件数の和に直す。 -/
theorem Checker.countP_allLogs (c : Checker) (q : UnoptimizedLog → Bool)
    (P : List Char → Bool) (hq : ∀ p ∈ c.files, ∀ l ∈ p.2.logs, q l = P p.1) :
    c.allLogs.countP q = ((c.files.filter fun p => P p.1).map fun p => p.2.count).sum := by
  rw [Checker.allLogs, List.countP_flatMap, sum_map_filter]
  congr 1
  exact List.map_congr_left fun p hp => countP_of_forall q (hq p hp)

/-- `hot_path` は hot path のファイルの件数の和である。 -/
theorem Checker.WF.hotPath_eq {c : Checker} (hc : c.WF) :
    c.getSummary.hotPath = ((c.files.filter fun p => isHotPath p.1).map fun p => p.2.count).sum := by
  rw [Checker.getSummary_eq]
  exact c.countP_allLogs _ _ fun _ hp _ hl => (hc.log_of_mem hp hl).2.1

/-- `test` は test のファイルの件数の和である。 -/
theorem Checker.WF.test_eq {c : Checker} (hc : c.WF) :
    c.getSummary.test = ((c.files.filter fun p => isTestFile p.1).map fun p => p.2.count).sum := by
  rw [Checker.getSummary_eq]
  exact c.countP_allLogs _ _ fun _ hp _ hl => (hc.log_of_mem hp hl).2.2

/-! ## Executive Summary の数 -/

theorem Checker.WF.test_le_total {c : Checker} (hc : c.WF) : c.getSummary.test ≤ c.totalLogs := by
  rw [Checker.getSummary_eq]
  exact (List.countP_le_length _).trans ((Checker.length_allLogs c).trans_le hc.sum_le)

theorem Checker.WF.length_le_total {c : Checker} (hc : c.WF) : c.files.length ≤ c.totalLogs := by
  refine le_trans ?_ hc.sum_le
  rw [← List.length_map c.files fun p => p.2.count]
  exact List.length_le_sum_of_one_le _ fun n hn => by
    obtain ⟨p, hp, rfl⟩ := List.mem_map.mp hn
    exact (hc.entry p hp).2.count_pos

/--
**Executive Summary の数は負にならず、食い違わない。** 何度 scan した後でも、Production Code
（`total - test`）は 0 以上で、Files Affected は Total を超えない。
-/
theorem summary_counts_of_scans (rootDir : List Char) (trees : List (List RsFile)) :
    let c := (Checker.new rootDir).scanAll trees
    0 ≤ c.getSummary.production ∧ c.getSummary.files ≤ c.getSummary.total := by
  have hc := (Checker.WF.new rootDir).scanAll trees
  have htest := hc.test_le_total
  refine ⟨?_, hc.length_le_total⟩
  rw [Checker.getSummary_eq] at htest ⊢
  dsimp only at htest ⊢
  omega

end Tos.LogCheck
