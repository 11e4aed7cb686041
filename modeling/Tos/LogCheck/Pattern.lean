import Tos.Unicode

/-!
# 正規表現と数え上げ

`scripts/check_log_optimization.py` の `check_file` が使う三つの正規表現と、
行ごとの数え上げ（`str.count`）を、`List Char` の上の関数として書く。

* `log_pattern` `^\s*(trace|debug|info|warn|error)!\s*\(` は `logMatch`
* `format_arg_pattern` `\{[^}]*\}` は `hasPlaceholder`
* `log_enabled_pattern` `if\s+(log::)?log_enabled!\s*\(\s*log::Level::(\w+)\s*\)` は `guardSearch`

## 後戻りがない

どの正規表現も、後戻りが一致の結果を変えない形をしている。`\s*` の後ろに来る文字は空白でなく、
`(\w+)` の後ろに来る `\s*\)` は語の文字で始まらない。`(log::)?` を読んだ後で
`log_enabled!` が読めなければ、読まない方も `log:` と `log_` の違いで失敗する。
そこで各部分を「先頭から読めるだけ読む」関数で書ける。

`\s`・`\w` と `str.lower` は、CPython の表を写した `Tos.Unicode` の `isSpace`・`isWordChar`・
`pyLower` である。
-/

namespace Tos.LogCheck

/-- 一行。`readlines()` の一要素で、行末の改行を含んでよい。 -/
abbrev Line := List Char

/-! ## 文字の並び -/

/-- 先頭が `p` なら、その後ろを返す。正規表現の文字の並びを一つ読む。 -/
def dropLit (p s : List Char) : Option (List Char) :=
  if p.isPrefixOf s then some (s.drop p.length) else none

/-- `\s+`：空白を一つ以上読む。 -/
def dropSpaces1 (s : List Char) : Option (List Char) :=
  if (s.head?.map isSpace) = some true then some (s.dropWhile isSpace) else none

/-! ## `log_pattern` -/

/-- log macro の level。 -/
inductive Level where
  | trace | debug | info | warn | error
  deriving DecidableEq, Repr

/-- 選択肢 `(trace|debug|info|warn|error)` の順。 -/
def Level.all : List Level := [.trace, .debug, .info, .warn, .error]

/-- group 1 の文字列。finding の `log_level` になる。 -/
def Level.name : Level → List Char
  | .trace => "trace".toList
  | .debug => "debug".toList
  | .info => "info".toList
  | .warn => "warn".toList
  | .error => "error".toList

/-- `LOG_LEVELS[level][0]`。`log::Level::` の後ろに書く名前。 -/
def Level.capName : Level → List Char
  | .trace => "Trace".toList
  | .debug => "Debug".toList
  | .info => "Info".toList
  | .warn => "Warn".toList
  | .error => "Error".toList

/-- `level!\s*\(` を先頭で読む。 -/
def openerAt (lv : Level) (s : List Char) : Option (List Char) := do
  let r ← dropLit lv.name s
  let r ← dropLit ['!'] r
  dropLit ['('] (r.dropWhile isSpace)

/-- `log_pattern.match(line)`：行頭の空白の後に log macro の呼び出しが始まれば、その level。 -/
def logMatch (line : Line) : Option Level :=
  Level.all.find? fun lv => (openerAt lv (line.dropWhile isSpace)).isSome

/-! ## `format_arg_pattern` -/

/--
`format_arg_pattern.search(s)`：`{` の後ろのどこかに `}` がある。

`[^}]*` は `{` も改行も通すので、`{` から最初の `}` までがいつも一致する。
-/
def hasPlaceholder : List Char → Bool
  | [] => false
  | c :: s => (c == '{' && s.contains '}') || hasPlaceholder s

/-- 後ろに文字を足しても、見つかった placeholder は残る。 -/
theorem hasPlaceholder_append {s : List Char} (h : hasPlaceholder s = true) (u : List Char) :
    hasPlaceholder (s ++ u) = true := by
  induction s with
  | nil => simp [hasPlaceholder] at h
  | cons c s ih =>
    simp only [hasPlaceholder, Bool.or_eq_true, Bool.and_eq_true, beq_iff_eq,
      List.elem_eq_mem, decide_eq_true_eq, List.cons_append] at h ⊢
    rcases h with ⟨hc, hs⟩ | h
    · exact Or.inl ⟨hc, List.mem_append_left u hs⟩
    · exact Or.inr (ih h)

/-! ## `log_enabled_pattern` -/

/-- `log_enabled_pattern` を `s` の先頭で試す。一致すれば group 2 と、一致の後ろの残りを返す。 -/
def guardAt (s : List Char) : Option (List Char × List Char) := do
  let r ← dropLit "if".toList s
  let r ← dropSpaces1 r
  let r := (dropLit "log::".toList r).getD r
  let r ← dropLit "log_enabled!".toList r
  let r ← dropLit ['('] (r.dropWhile isSpace)
  let r ← dropLit "log::Level::".toList (r.dropWhile isSpace)
  let w := r.takeWhile isWordChar
  if w.isEmpty then none
  else (dropLit [')'] ((r.dropWhile isWordChar).dropWhile isSpace)).map fun rest => (w, rest)

/-- `log_enabled_pattern.search(line)`：最も左の一致。 -/
def guardSearch : List Char → Option (List Char × List Char)
  | [] => none
  | c :: s => guardAt (c :: s) <|> guardSearch s

/-- guard の行なら `enabled_match.group(2).lower()`、そうでなければ `none`。 -/
def guardLevel (line : Line) : Option (List Char) :=
  (guardSearch line).map fun m => pyLower m.1

/-! ## 数え上げ -/

/-- `line.count(o) - line.count(c)`。`{}` と `()` の二つに使う。 -/
def charDelta (o c : Char) (line : List Char) : Int := line.count o - line.count c

/-- `line.count('{') - line.count('}')`。 -/
def braceDelta (line : List Char) : Int := charDelta '{' '}' line

/-- `line.count('(') - line.count(')')`。 -/
def parenDelta (line : List Char) : Int := charDelta '(' ')' line

@[simp] theorem charDelta_nil (o c : Char) : charDelta o c [] = 0 := by
  simp [charDelta]

@[simp] theorem charDelta_append (o c : Char) (s u : List Char) :
    charDelta o c (s ++ u) = charDelta o c s + charDelta o c u := by
  simp only [charDelta, List.count_append, Nat.cast_add]
  ring

@[simp] theorem braceDelta_nil : braceDelta [] = 0 := charDelta_nil _ _

@[simp] theorem parenDelta_nil : parenDelta [] = 0 := charDelta_nil _ _

/-! ## 部分文字列 -/

/-- Python の `p in s`。 -/
def isSubstr (p : List Char) : List Char → Bool
  | [] => p.isEmpty
  | c :: s => p.isPrefixOf (c :: s) || isSubstr p s

theorem isSubstr_iff {p s : List Char} : isSubstr p s = true ↔ p <:+: s := by
  induction s with
  | nil => simp [isSubstr, List.isEmpty_iff]
  | cons c s ih =>
    rw [isSubstr, Bool.or_eq_true, List.isPrefixOf_iff_prefix, ih, List.infix_cons_iff]

end Tos.LogCheck
