import Tos.LogCheck.Pattern

/-!
# `check_file`

`LogOptimizationChecker.check_file` を、Python の loop の形のまま書く。

## 三つの部品

* **guard の追跡**（`Tracker`）。`in_log_enabled_block`、`log_enabled_level`、`brace_depth` の
  三つの局所変数。guard の行で上書きされ、それ以外の行では block の中にいる間だけ深さを足し、
  0 以下になれば閉じる。深さは閉じた後も 0 に戻さない（次の guard が上書きする）。
* **文の連結**（`joinFrom`）。log の行から `(` と `)` の差が 0 以下になるまで後ろの行を足す。
  `i` は進めないので、足した行もそれぞれ loop で読まれる。
* **path の分類**（`isHotPath`・`isTestFile`）。表のどれかが部分文字列として現れるか。

loop は行の列についての構造的な再帰で、`rest` が `lines[i+1:]` にあたる。
ファイルが読めないこと（`open` の例外）は、内容を `Option` で受けて表す。
-/

namespace Tos.LogCheck

/-! ## データ -/

/-- `UnoptimizedLog`。一つの finding。 -/
structure UnoptimizedLog where
  filePath : List Char
  lineNumber : Nat
  logLevel : Level
  content : List Char
  isHotPath : Bool
  isTest : Bool
  deriving DecidableEq, Repr

/-- `FileStats`。一つのファイルの finding の列。 -/
structure FileStats where
  path : List Char
  logs : List UnoptimizedLog
  deriving DecidableEq, Repr

/-- `FileStats.count`。 -/
def FileStats.count (s : FileStats) : Nat := s.logs.length

/-! ## path の分類 -/

/-- `HOT_PATH_PATTERNS`。 -/
def hotPathPatterns : List (List Char) :=
  ["daemon/src/core/blockchain.rs", "daemon/src/core/state/", "daemon/src/core/mempool.rs",
    "daemon/src/p2p/mod.rs", "daemon/src/p2p/connection.rs", "daemon/src/p2p/chain_sync/",
    "daemon/src/p2p/peer_list/", "daemon/src/core/storage/",
    "common/src/transaction/verify/"].map String.toList

/-- `SKIP_PATTERNS`。 -/
def skipPatterns : List (List Char) :=
  ["/tests/", "/test_", "_test.rs", "/examples/", "/benches/"].map String.toList

/-- `is_hot_path` と `is_test_file` に共通の形：表のどれかが path の部分文字列である。 -/
def matchesAny (patterns : List (List Char)) (path : List Char) : Bool :=
  patterns.any fun p => isSubstr p path

/-- `is_hot_path`。 -/
def isHotPath (path : List Char) : Bool := matchesAny hotPathPatterns path

/-- `is_test_file`。 -/
def isTestFile (path : List Char) : Bool := matchesAny skipPatterns path

/-! ## guard の追跡 -/

/-- `in_log_enabled_block`、`log_enabled_level`、`brace_depth`。 -/
structure Tracker where
  inBlock : Bool
  level : Option (List Char)
  depth : Int
  deriving DecidableEq, Repr

/-- loop に入る前の値。 -/
def Tracker.init : Tracker := ⟨false, none, 0⟩

/-- guard の行。深さはこの行の `{` と `}` の差で置き換わる。 -/
def Tracker.enter (g : List Char) (line : Line) : Tracker := ⟨true, some g, braceDelta line⟩

/-- guard でない行。block の中なら深さを足し、0 以下になれば block を閉じる。 -/
def Tracker.track (t : Tracker) (line : Line) : Tracker :=
  if t.inBlock then
    if t.depth + braceDelta line ≤ 0 then ⟨false, none, t.depth + braceDelta line⟩
    else { t with depth := t.depth + braceDelta line }
  else t

/-- `is_wrapped`：block の中で、その level が空でなく、log の level と等しい。 -/
def Tracker.isWrapped (t : Tracker) (lv : Level) : Bool :=
  t.inBlock && match t.level with
    | some l => !l.isEmpty && l == lv.name
    | none => false

/-- 一行ぶんの状態の更新。 -/
def Tracker.step (t : Tracker) (line : Line) : Tracker :=
  match guardLevel line with
  | some g => Tracker.enter g line
  | none => t.track line

theorem Tracker.step_of_guard {t : Tracker} {line : Line} {g : List Char}
    (h : guardLevel line = some g) : t.step line = Tracker.enter g line := by
  rw [Tracker.step, h]

theorem Tracker.step_of_not_guard {t : Tracker} {line : Line} (h : guardLevel line = none) :
    t.step line = t.track line := by
  rw [Tracker.step, h]

/-! ## 文の連結 -/

/-- `while paren_depth > 0 and j < len(lines)` の loop。 -/
def joinFrom : Int → List Line → List Char
  | _, [] => []
  | d, l :: ls => if 0 < d then l ++ joinFrom (d + parenDelta l) ls else []

/-- `full_statement`。`rest` は log の行より後ろの行。 -/
def fullStatement (line : Line) (rest : List Line) : List Char :=
  line ++ joinFrom (parenDelta line) rest

/-! ## loop -/

/-- log の行なら、`stats.logs` に足すものを返す。`t` は行 `i` を `track` した後の状態。 -/
def logEntry (relPath : List Char) (t : Tracker) (i : Nat) (line : Line) (rest : List Line) :
    Option UnoptimizedLog :=
  match logMatch line with
  | none => none
  | some lv =>
    if hasPlaceholder (fullStatement line rest) && !t.isWrapped lv then
      some { filePath := relPath, lineNumber := i + 1, logLevel := lv,
             content := (fullStatement line rest).take 200,
             isHotPath := isHotPath relPath, isTest := isTestFile relPath }
    else none

/-- `while i < len(lines)` の loop。 -/
def checkLines (relPath : List Char) : Tracker → Nat → List Line → List UnoptimizedLog
  | _, _, [] => []
  | t, i, line :: rest =>
    match guardLevel line with
    | some g => checkLines relPath (Tracker.enter g line) (i + 1) rest
    | none =>
      (logEntry relPath (t.track line) i line rest).toList ++
        checkLines relPath (t.track line) (i + 1) rest

/-- `check_file`。読めないファイル（`content = none`）と、finding のないファイルは `None`。 -/
def checkFile (relPath : List Char) (content : Option (List Line)) : Option FileStats :=
  match content with
  | none => none
  | some lines =>
    if (checkLines relPath Tracker.init 0 lines).isEmpty then none
    else some ⟨relPath, checkLines relPath Tracker.init 0 lines⟩

/-- `check_file` の結果の finding。`None` なら空。 -/
def logsOf : Option FileStats → List UnoptimizedLog
  | some s => s.logs
  | none => []

/-! ## 一行の式 -/

/-- 行 `i` が出すもの。guard の行は何も出さない。 -/
def lineEntry (relPath : List Char) (t : Tracker) (i : Nat) (line : Line) (rest : List Line) :
    Option UnoptimizedLog :=
  match guardLevel line with
  | some _ => none
  | none => logEntry relPath (t.track line) i line rest

/-- **loop の一歩。** 一行の寄与と、`step` した状態からの残り。 -/
theorem checkLines_cons (relPath : List Char) (t : Tracker) (i : Nat) (line : Line)
    (rest : List Line) :
    checkLines relPath t i (line :: rest) =
      (lineEntry relPath t i line rest).toList ++
        checkLines relPath (t.step line) (i + 1) rest := by
  rw [checkLines, lineEntry, Tracker.step]
  cases guardLevel line <;> rfl

theorem logsOf_checkFile (relPath : List Char) (lines : List Line) :
    logsOf (checkFile relPath (some lines)) = checkLines relPath Tracker.init 0 lines := by
  simp only [checkFile]
  split <;> simp_all [logsOf]

end Tos.LogCheck
