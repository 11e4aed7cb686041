import Tos.LogCheck.Spec

/-!
# guard の block と finding

guard の block を文字の単位で考える。block は、guard の一致の後の最初の `{` から、
ファイルのすべての `{` と `}` を数えてそれに対応する `}` までである（`inGuardBlock`）。
`check_file` はこれを行の単位で追う。行ごとの差しか見ないので、次の二つが起こる。

* `} else {` の行は差が 0 なので、block が閉じたことに気づかない。else の側の同じ level の
  呼び出しは guard されているとみなされ、報告されない（`elseBranch_call_missed`）。
* 追う guard は一つだけである。違う level の guard を内側に開くと外側の guard は忘れられ、
  内側が閉じた後の外側の呼び出しが報告される（`nestedGuard_call_reported`）。

行の単位で言い直せば、報告の漏れも余分な報告もない（`unguarded_call_reported`・
`reported_call_unguarded`）。guard が開いているとは、宣言的な定義の `GuardOpen` のことである。
-/

namespace Tos.LogCheck

/-! ## 文字の単位の block -/

/-- 行 `i` の最初の文字の、ファイル全体での位置。 -/
def lineStart (lines : List Line) (i : Nat) : Nat := ((lines.take i).map List.length).sum

/-- 位置 `o` から `q` までの `{` と `}` の差。 -/
def textBraceCount (text : List Char) (o q : Nat) : Int := braceDelta ((text.drop o).take (q + 1 - o))

/-- 行 `k` の列 `c` から guard の正規表現が一致するなら、捕まえた level と一致の直後の位置。 -/
def guardMatchAt (lines : List Line) (k c : Nat) : Option (List Char × Nat) :=
  (guardAt ((lines.getD k []).drop c)).map fun m =>
    (pyLower m.1, lineStart lines k + (lines.getD k []).length - m.2.length)

/-- 位置 `p` 以降の最初の `{` の位置。 -/
def firstOpenFrom (text : List Char) (p : Nat) : Option Nat :=
  ((text.drop p).findIdx? (· == '{')).map (p + ·)

/-- 行 `i` の始まりが、行 `k` の列 `c` の guard の block の中にある。 -/
def inBlockOf (lines : List Line) (k c i : Nat) : Bool :=
  match guardMatchAt lines k c with
  | none => false
  | some (_, e) =>
    match firstOpenFrom lines.flatten e with
    | none => false
    | some o => decide (o < lineStart lines i) &&
        (List.range (lineStart lines i)).all fun q => decide (q < o) || decide (0 < textBraceCount lines.flatten o q)

/-- 行 `i` の始まりが、level `lv` のどれかの guard の block の中にある。 -/
def inGuardBlock (lines : List Line) (i : Nat) (lv : Level) : Bool :=
  (List.range lines.length).any fun k => (List.range (lines.getD k []).length).any fun c =>
    (guardMatchAt lines k c).any (·.1 == lv.name) && inBlockOf lines k c i

/-! ## 行の単位では見えない閉じ方 -/

/-- Debug の guard の `} else {` の側に Debug の呼び出しがある。 -/
def elseBranchFile : List Line :=
  ["if log::log_enabled!(log::Level::Debug) \x7b".toList,
    "    debug!(\"a \x7b\x7d\", a);".toList,
    "\x7d else \x7b".toList,
    "    debug!(\"b \x7b\x7d\", b);".toList,
    "\x7d".toList]

/-- else の側の呼び出し（行 4）は block の外にあるが、報告されない。 -/
theorem elseBranch_call_missed :
    logMatch (elseBranchFile.getD 3 []) = some .debug ∧
      hasPlaceholder (joinedStmt elseBranchFile 3) = true ∧
      inGuardBlock elseBranchFile 3 .debug = false ∧
      ∀ f ∈ logsOf (checkFile [] (some elseBranchFile)), f.lineNumber ≠ 4 := by
  decide

/-- Trace の guard の中で Debug の guard を開いて閉じ、その後に Trace の呼び出しがある。 -/
def nestedGuardFile : List Line :=
  ["if log::log_enabled!(log::Level::Trace) \x7b".toList,
    "    if log::log_enabled!(log::Level::Debug) \x7b".toList,
    "        debug!(\"\x7b\x7d\", a);".toList,
    "    \x7d".toList,
    "    trace!(\"\x7b\x7d\", b);".toList,
    "\x7d".toList]

/-- 外側の Trace の block の中の呼び出し（行 5）が報告される。 -/
theorem nestedGuard_call_reported :
    ∃ f ∈ logsOf (checkFile [] (some nestedGuardFile)),
      f.lineNumber = 5 ∧ f.logLevel = .trace ∧ inGuardBlock nestedGuardFile 4 .trace = true := by
  decide

/-! ## 行の単位の guard -/

/--
**報告の漏れはない。** guard の行でない log の行で、文に placeholder があり、
行の単位で同じ level の guard が開いていなければ、その行の finding がある。
-/
theorem unguarded_call_reported (relPath : List Char) (lines : List Line) (i : Nat) (lv : Level)
    (hi : i < lines.length) (hguard : guardLevel (lines.getD i []) = none)
    (hlog : logMatch (lines.getD i []) = some lv)
    (hph : hasPlaceholder (joinedStmt lines i) = true) (hopen : ¬ GuardOpen lines i lv) :
    ∃ f ∈ logsOf (checkFile relPath (some lines)), f.lineNumber = i + 1 ∧ f.logLevel = lv := by
  rw [logsOf_checkFile_eq_spec]
  exact ⟨_, mem_specFindings.mpr ⟨i, hi, specEntry_eq_some.mpr ⟨lv, hguard, hlog, hph, hopen, rfl⟩⟩,
    rfl, rfl⟩

/--
行 5 の前に Trace の guard の行があるが、間に Debug の guard の行があるので、行の単位では
開いていない。その呼び出しは報告される。
-/
theorem unguarded_call_reported_nestedGuard :
    guardLevel (nestedGuardFile.getD 0 []) = some "trace".toList ∧
      ¬ GuardOpen nestedGuardFile 4 .trace ∧
      ∃ f ∈ logsOf (checkFile [] (some nestedGuardFile)), f.lineNumber = 5 ∧ f.logLevel = .trace :=
  ⟨by decide, by decide,
    unguarded_call_reported [] nestedGuardFile 4 .trace (by decide) (by decide) (by decide)
      (by decide) (by decide)⟩

/--
**余分な報告はない。** finding の行は guard の行でない log の行で、文に placeholder があり、
行の単位で同じ level の guard は開いていない。
-/
theorem reported_call_unguarded (relPath : List Char) (lines : List Line) (f : UnoptimizedLog)
    (hf : f ∈ logsOf (checkFile relPath (some lines))) :
    ∃ i < lines.length, f.lineNumber = i + 1 ∧ guardLevel (lines.getD i []) = none ∧
      logMatch (lines.getD i []) = some f.logLevel ∧
      hasPlaceholder (joinedStmt lines i) = true ∧ ¬ GuardOpen lines i f.logLevel := by
  rw [logsOf_checkFile_eq_spec] at hf
  obtain ⟨i, hi, he⟩ := mem_specFindings.mp hf
  obtain ⟨lv, hguard, hlog, hph, hopen, rfl⟩ := specEntry_eq_some.mp he
  exact ⟨i, hi, rfl, hguard, hlog, hph, hopen⟩

theorem reported_call_unguarded_trace :
    ∃ i < nestedGuardFile.length, 5 = i + 1 ∧ guardLevel (nestedGuardFile.getD i []) = none ∧
      logMatch (nestedGuardFile.getD i []) = some .trace ∧
      hasPlaceholder (joinedStmt nestedGuardFile i) = true ∧ ¬ GuardOpen nestedGuardFile i .trace :=
  reported_call_unguarded [] nestedGuardFile
    ⟨[], 5, .trace, (joinedStmt nestedGuardFile 4).take 200, false, false⟩ (by decide)

end Tos.LogCheck
