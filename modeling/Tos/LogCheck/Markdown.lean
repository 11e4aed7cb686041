import Tos.LogCheck.Report
import Tos.LogCheck.Invariant

/-!
# `generate_markdown_report`

markdown の報告を、行の列として書く。表の行は欄の構造（`LevelRow`・`HotFileRow`）と、その行の
文字列（`line`）に分ける。By Module の表は `Tos.LogCheck.Report` にある。日付
（`date.today().isoformat()`）は引数 `today` で受ける。

## 表と `get_summary` の数

* By Log Level の各行の数は、ファイルごとの `by_level` のその level の欄の和であり、
  Critical Hot Path Files の各行の五つの level の欄の和はその行の件数である
  （`levelRows_count`）。
* 何度 scan した後でも、Critical Hot Path Files の表（20 行に切る前）は、path が hot path である
  記録されたファイルを件数の多い順に並べたもので、件数の和は Hot Path Logs である
  （`hotFiles_of_scans`）。
* Action Items の `(test - skip)` の印は、path が test のファイルにだけ付き、Test Code の数は
  印の付いたファイルの件数の和である（`testMarker_of_scans`）。
* Status が `All logs optimized` と言うのは、All Files の節が空のときに限る
  （`statusLine_of_scans`）。
-/

namespace Tos.LogCheck

/-! ## `FileStats.by_level` -/

/-- `d.get(k, 0)`。 -/
def dictGetD {α : Type} [DecidableEq α] (d : List (α × Nat)) (k : α) : Nat := (dictGet d k).getD 0

/-- `FileStats.by_level`：level ごとの finding の数。 -/
def FileStats.byLevel (s : FileStats) : List (Level × Nat) := (s.logs.map (·.logLevel)).foldl bump []

theorem dictGetD_foldl_bump {α : Type} [DecidableEq α] (L : List α) (k : α) :
    dictGetD (L.foldl bump []) k = L.count k := by
  rw [dictGetD, dictGet_foldl_bump]
  split
  · next h => exact h.symm
  · exact Nat.zero_add _

/-- 五つの level の数を足すと、列の長さになる。 -/
theorem sum_count_all (L : List Level) : (Level.all.map L.count).sum = L.length := by
  induction L with
  | nil => rfl
  | cons a L ih =>
    simp only [Level.all, List.map_cons, List.map_nil, List.sum_cons, List.sum_nil,
      List.count_cons, List.length_cons] at ih ⊢
    cases a <;> simp [beq_iff_eq] <;> omega

/-! ## By Log Level -/

/-- `LOG_LEVELS` の三つ目の欄。 -/
inductive Priority where
  | critical | medium | low
  deriving DecidableEq, Repr

/-- `LOG_LEVELS[level][2]`。 -/
def Level.priority : Level → Priority
  | .trace => .critical
  | .debug => .critical
  | .info => .medium
  | .warn => .low
  | .error => .low

/-- `priority_icon`。 -/
def Priority.icon : Priority → List Char
  | .critical => "ðŸ”´ **Critical**".toList
  | .medium => "ðŸŸ¡ Medium".toList
  | .low => "ðŸŸ¢ Low".toList

/-- `reasons[level]`。 -/
def Level.reason : Level → List Char
  | .trace => "Always disabled in production".toList
  | .debug => "Usually disabled in production".toList
  | .info => "Sometimes disabled".toList
  | .warn => "Usually enabled".toList
  | .error => "Always enabled".toList

/-- By Log Level の表の一行の欄。 -/
structure LevelRow where
  level : Level
  count : Nat
  priority : List Char
  reason : List Char
  deriving DecidableEq, Repr

/-- `for level in ['trace', 'debug', 'info', 'warn', 'error']` の行。 -/
def levelRows (s : Summary) : List LevelRow :=
  Level.all.map fun lv => ⟨lv, dictGetD s.byLevel lv, lv.priority.icon, lv.reason⟩

/-- 行の markdown。 -/
def LevelRow.line (r : LevelRow) : List Char :=
  "| `".toList ++ r.level.name ++ "!` | ".toList ++ (toString r.count).toList ++ " | ".toList ++
    r.priority ++ " | ".toList ++ r.reason ++ " |".toList

/-! ## Critical Hot Path Files -/

/-- `sort(key=lambda x: -x[1].count)` の順：件数の多い順。整列は安定である。 -/
def byCountDesc (a b : List Char × FileStats) : Bool := decide (b.2.count ≤ a.2.count)

/-- `hot_files`：finding があり、そのどれかが hot path のファイルを、件数の多い順に並べる。 -/
def hotFiles (c : Checker) : List (List Char × FileStats) :=
  (c.files.filter fun p => !p.2.logs.isEmpty && p.2.logs.any (·.isHotPath)).mergeSort byCountDesc

/-- Critical Hot Path Files の表の一行の欄。`levels` は trace から error までの `by_level`。 -/
structure HotFileRow where
  path : List Char
  count : Nat
  levels : List Nat
  deriving DecidableEq, Repr

def hotFileRow (p : List Char × FileStats) : HotFileRow :=
  ⟨p.1, p.2.count, Level.all.map (dictGetD p.2.byLevel)⟩

/-- 行の markdown。 -/
def HotFileRow.line (r : HotFileRow) : List Char :=
  "| `".toList ++ r.path ++ "` | ".toList ++ (toString r.count).toList ++
    (r.levels.map fun n => " | ".toList ++ (toString n).toList).flatten ++ " |".toList

/-! ## All Files と Action Items -/

/-- `sorted_files`。 -/
def sortedFiles (c : Checker) : List (List Char × FileStats) := c.files.mergeSort byCountDesc

/-- `f"{path:70} {stats.count:4}"`。文字列は左に、数は右に寄せて幅を埋める。 -/
def allFilesLine (p : List Char × FileStats) : List Char :=
  let n := (toString p.2.count).toList
  p.1 ++ List.replicate (70 - p.1.length) ' ' ++ ' ' :: (List.replicate (4 - n.length) ' ' ++ n)

/-- Action Items の一行。すべての finding が test なら印を付ける。 -/
def actionItem (p : List Char × FileStats) : List Char :=
  "- [ ] `".toList ++ p.1 ++ "` (".toList ++ (toString p.2.count).toList ++ " logs)".toList ++
    if p.2.logs.all (·.isTest) then " (test - skip)".toList else []

/-! ## Detailed Locations -/

/-- Python の `str.strip()`：両端の空白を落とす。 -/
def pyStrip (s : List Char) : List Char :=
  ((s.dropWhile isSpace).reverse.dropWhile isSpace).reverse

/-- 一つの finding の二行。内容は `strip()` して改行を空白にし、100 文字に切る。 -/
def detailLines (path : List Char) (l : UnoptimizedLog) : List (List Char) :=
  let content := ((pyStrip l.content).map fun ch => if ch = '\n' then ' ' else ch).take 100
  ["// ".toList ++ path ++ ':' :: (toString l.lineNumber).toList,
    "// ".toList ++ l.logLevel.name ++ "! - ".toList ++ content]

/-- 一つのファイルの節。finding は 15 個までで、残りの数を書く。 -/
def detailSection (p : List Char × FileStats) : List (List Char) :=
  ["### `".toList ++ p.1 ++ "` (".toList ++ (toString p.2.count).toList ++ " logs)".toList, [],
      "```rust".toList] ++
    (p.2.logs.take 15).flatMap (detailLines p.1) ++
    (if 15 < p.2.logs.length then
      ["// ... and ".toList ++ (toString (p.2.logs.length - 15)).toList ++ " more".toList]
    else []) ++
    ["```".toList, []]

/-! ## 報告 -/

/-- Status の行の、finding があるときの文。 -/
def warnStatus (total : Nat) : List Char :=
  "âš ï¸ **".toList ++ (toString total).toList ++ " unoptimized log statements found**".toList

/-- Status の行の、finding がないときの文。 -/
def okStatus : List Char := "âœ… All logs optimized".toList

/-- Status の行。 -/
def statusLine (s : Summary) : List Char :=
  "**Status**: ".toList ++ if 0 < s.total then warnStatus s.total else okStatus

/-- Executive Summary の表。 -/
def summaryTable (s : Summary) : List (List Char) :=
  ["| Metric | Value |".toList, "|--------|-------|".toList,
    "| **Total Unoptimized Logs** | ".toList ++ (toString s.total).toList ++ " |".toList,
    "| **Files Affected** | ".toList ++ (toString s.files).toList ++ " |".toList,
    "| **Hot Path Logs** | ".toList ++ (toString s.hotPath).toList ++ " |".toList,
    "| **Test Code (can skip)** | ".toList ++ (toString s.test).toList ++ " |".toList,
    "| **Production Code** | ".toList ++ (toString s.production).toList ++ " |".toList]

/-- How to Fix と Verification Commands の節。どの状態でも同じ文である。 -/
def fixAndCommands : List (List Char) :=
  ["---", "", "## How to Fix", "", "### Pattern", "", "```rust", "// BEFORE (unoptimized):",
    "trace!(\"Processing block \x7b\x7d at height \x7b\x7d\", hash, height);", "",
    "// AFTER (optimized per TIP-6):", "if log::log_enabled!(log::Level::Trace) \x7b",
    "    trace!(\"Processing block \x7b\x7d at height \x7b\x7d\", hash, height);", "\x7d", "```", "",
    "---", "", "## Verification Commands", "", "```bash", "# Run this checker",
    "python3 scripts/check_log_optimization.py", "", "# Find all unoptimized logs",
    "rg \x27^\\s*(error|warn|info|debug|trace)!\\([^)]*\\\x7b\x27 --type rust -c | sort -t: -k2 -rn",
    "", "# Count already optimized",
    "rg \x27if log::log_enabled!\\(log::Level::\x27 --type rust | wc -l", "```", ""].map String.toList

/-- `generate_markdown_report` の行。 -/
def Checker.markdownLines (c : Checker) (today : List Char) : List (List Char) :=
  let s := c.getSummary
  ["# TOS Log Optimization Check Report".toList, [], "**Date**: ".toList ++ today,
      "**Reference**: TIP-6 Zero-Overhead Logging Performance Optimization".toList, statusLine s, [],
      "---".toList, [], "## Executive Summary".toList, []] ++
    summaryTable s ++ [[]] ++
    (["### By Log Level (Priority)", "", "| Level | Count | Priority | Reason |",
      "|-------|-------|----------|--------|"].map String.toList) ++
    (levelRows s).map LevelRow.line ++ [[]] ++
    (["---", "", "## By Module", "", "| Module | Count | Hot Path? | Priority |",
      "|--------|-------|-----------|----------|"].map String.toList) ++
    (moduleRows s).map ModuleRow.line ++ [[]] ++
    (["---", "", "## Critical Hot Path Files", "",
      "These files are in consensus/network hot paths and should be prioritized:", ""].map
        String.toList) ++
    (if (hotFiles c).isEmpty then []
    else
      (["| File | Unoptimized | trace | debug | info | warn | error |",
        "|------|-------------|-------|-------|------|------|-------|"].map String.toList) ++
      ((hotFiles c).take 20).map (fun p => (hotFileRow p).line) ++ [[]]) ++
    (["---", "", "## All Files (Sorted by Count)", "", "```"].map String.toList) ++
    ((sortedFiles c).take 50).map allFilesLine ++ ["```".toList, []] ++
    (["---", "", "## Detailed Locations (Hot Path Files)", "",
      "### Format: `file:line` - level - content", ""].map String.toList) ++
    ((hotFiles c).take 10).flatMap detailSection ++ fixAndCommands ++
    (["---", "", "## Action Items", ""].map String.toList) ++
    ((sortedFiles c).take 15).map actionItem ++ [[]] ++
    ["---".toList, [], "**Report Generated**: ".toList ++ today ++ " by `check_log_optimization.py`".toList,
      []]

/-- `'\n'.join(lines)`。 -/
def Checker.generateMarkdownReport (c : Checker) (today : List Char) : List Char :=
  ['\n'].intercalate (c.markdownLines today)

/-! ## By Log Level の数 -/

theorem dictGetD_byLevel (s : FileStats) (lv : Level) :
    dictGetD s.byLevel lv = (s.logs.map (·.logLevel)).count lv :=
  dictGetD_foldl_bump _ _

theorem dictGetD_summary_byLevel (c : Checker) (lv : Level) :
    dictGetD c.getSummary.byLevel lv = (c.allLogs.map (·.logLevel)).count lv := by
  rw [Checker.getSummary_eq]
  exact dictGetD_foldl_bump _ _

/--
**By Log Level の表と、ファイルごとの `by_level` は食い違わない。** どの状態でも、By Log Level の
各行の数は、記録されたファイルの `by_level` のその level の数の和であり、五行の数の和は記録された
finding の数である。Critical Hot Path Files の表の行の五つの level の欄の和は、その行の件数である。
-/
theorem levelRows_count (c : Checker) :
    (∀ r ∈ levelRows c.getSummary,
      r.count = (c.files.map fun p => dictGetD p.2.byLevel r.level).sum) ∧
      ((levelRows c.getSummary).map (·.count)).sum = (c.files.map fun p => p.2.count).sum ∧
      ∀ p : List Char × FileStats, (hotFileRow p).levels.sum = (hotFileRow p).count := by
  refine ⟨fun r hr => ?_, ?_, fun p => ?_⟩
  · obtain ⟨lv, -, rfl⟩ := List.mem_map.mp hr
    simp only [dictGetD_summary_byLevel, dictGetD_byLevel, Checker.allLogs, List.map_flatMap,
      List.count_flatMap]
    rfl
  · rw [levelRows, List.map_map, ← Checker.length_allLogs, ← List.length_map c.allLogs (·.logLevel),
      ← sum_count_all]
    simp only [Function.comp_def, dictGetD_summary_byLevel]
  · show (Level.all.map (dictGetD p.2.byLevel)).sum = p.2.logs.length
    rw [show dictGetD p.2.byLevel = (p.2.logs.map (·.logLevel)).count from
      funext (dictGetD_byLevel p.2), sum_count_all, List.length_map]

/-! ## 印は path で決まる -/

theorem any_eq_of_forall {L : List UnoptimizedLog} (hne : L ≠ []) (q : UnoptimizedLog → Bool)
    {b : Bool} (hq : ∀ l ∈ L, q l = b) : L.any q = b := by
  obtain ⟨l₀, hl₀⟩ := List.exists_mem_of_ne_nil L hne
  cases b with
  | false => exact List.any_eq_false.mpr fun l hl => by rw [hq l hl]; decide
  | true => exact List.any_eq_true.mpr ⟨l₀, hl₀, hq l₀ hl₀⟩

theorem all_eq_of_forall {L : List UnoptimizedLog} (hne : L ≠ []) (q : UnoptimizedLog → Bool)
    {b : Bool} (hq : ∀ l ∈ L, q l = b) : L.all q = b := by
  obtain ⟨l₀, hl₀⟩ := List.exists_mem_of_ne_nil L hne
  cases b with
  | false => exact List.all_eq_false.mpr ⟨l₀, hl₀, by rw [hq l₀ hl₀]; decide⟩
  | true => exact List.all_eq_true.mpr fun l hl => hq l hl

theorem Checker.WF.hotFiles_eq {c : Checker} (hc : c.WF) :
    hotFiles c = (c.files.filter fun p => isHotPath p.1).mergeSort byCountDesc := by
  unfold hotFiles
  congr 1
  refine List.filter_congr fun p hp => ?_
  have hne := (hc.entry p hp).2.nonempty
  rw [any_eq_of_forall hne _ fun _ hl => (hc.log_of_mem hp hl).2.1,
    show p.2.logs.isEmpty = false from List.isEmpty_eq_false.mpr hne]
  rfl

/--
**Critical Hot Path Files の表は、path が hot path のファイルをすべて、件数の多い順に並べたもので
ある。** 何度 scan した後でも、`hot_files`（20 行に切る前）は、記録されたファイルのうち path が
`HOT_PATH_PATTERNS` に当たるものを件数の多い順に（同じ件数なら記録の順に）並べたもので、その件数の
和は Executive Summary の Hot Path Logs である。
-/
theorem hotFiles_of_scans (rootDir : List Char) (trees : List (List RsFile)) :
    let c := (Checker.new rootDir).scanAll trees
    hotFiles c = (c.files.filter fun p => isHotPath p.1).mergeSort byCountDesc ∧
      ((hotFiles c).map fun p => p.2.count).sum = c.getSummary.hotPath := by
  have hc := (Checker.WF.new rootDir).scanAll trees
  refine ⟨hc.hotFiles_eq, ?_⟩
  rw [hc.hotFiles_eq, hc.hotPath_eq]
  exact ((List.mergeSort_perm _ _).map _).sum_eq

/--
**Action Items の `(test - skip)` の印は、path が test のファイルにだけ付く。** 何度 scan した後でも、
All Files の順の各ファイルの行は、`all(log.is_test ...)` の代わりに path の `is_test_file` で印を
付けたものと同じであり、Test Code の数は、その印の付くファイルの件数の和である。
-/
theorem testMarker_of_scans (rootDir : List Char) (trees : List (List RsFile)) :
    let c := (Checker.new rootDir).scanAll trees
    (∀ p ∈ sortedFiles c, actionItem p =
      "- [ ] `".toList ++ p.1 ++ "` (".toList ++ (toString p.2.count).toList ++ " logs)".toList ++
        if isTestFile p.1 then " (test - skip)".toList else []) ∧
      c.getSummary.test = ((c.files.filter fun p => isTestFile p.1).map fun p => p.2.count).sum := by
  have hc := (Checker.WF.new rootDir).scanAll trees
  refine ⟨fun p hp => ?_, hc.test_eq⟩
  have hp' := (List.mergeSort_perm _ _).mem_iff.mp hp
  rw [actionItem,
    all_eq_of_forall (hc.entry p hp').2.nonempty _ fun _ hl => (hc.log_of_mem hp' hl).2.2]

/-! ## Status -/

theorem statusLine_eq_ok_iff (s : Summary) :
    statusLine s = "**Status**: ".toList ++ okStatus ↔ s.total = 0 := by
  unfold statusLine
  split
  · refine iff_of_false (fun he => ?_) (by omega)
    have h2 := congrArg (List.take 2) (List.append_cancel_left he)
    rw [show (warnStatus s.total).take 2 = "âš".toList from rfl,
      show okStatus.take 2 = "âœ".toList from rfl] at h2
    exact absurd h2 (by decide)
  · exact iff_of_true rfl (by omega)

/--
**Status が `All logs optimized` と言うのは、報告がファイルを一つも挙げないときに限る。** 何度 scan
した後でも、Status の行が finding のない文になるのは、All Files の節（`sorted_files`）が空のとき
である。`total` は scan のたびに足されるが、記録は消えないので、この二つは食い違わない。
-/
theorem statusLine_of_scans (rootDir : List Char) (trees : List (List RsFile)) :
    let c := (Checker.new rootDir).scanAll trees
    statusLine c.getSummary = "**Status**: ".toList ++ okStatus ↔ sortedFiles c = [] := by
  have hc := (Checker.WF.new rootDir).scanAll trees
  dsimp only
  rw [statusLine_eq_ok_iff, Checker.getSummary_eq, sortedFiles, ← List.length_eq_zero,
    (List.mergeSort_perm _ _).length_eq, List.length_eq_zero]
  exact hc.empty.symm

end Tos.LogCheck
