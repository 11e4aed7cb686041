import Tos.LogCheck.Scan

/-!
# `generate_markdown_report` の By Module の表

表の行は `get_summary` の `by_module` を件数の多い順に並べたもので、各行の Hot Path? の欄は、
module の名前に `daemon/src/core`、`daemon/src/p2p`、`common/src/transaction` のどれかが
部分文字列として現れるかで決まる。

ところが module の名前は path の最初の二つの部分（`daemon/src` など）で、`/` を高々一つしか
含まない。印の文字列はどれも `/` を二つ含むので決して現れず、どの行も hot にならない
（`moduleRows_not_hot`）。hot path のファイルの finding しかない scan でも同じである
（`hotPathFile_row_not_hot`）。
-/

namespace Tos.LogCheck

/-! ## 表の行 -/

/-- By Module の表で hot とみなす module の部分文字列。 -/
def hotModules : List (List Char) :=
  ["daemon/src/core", "daemon/src/p2p", "common/src/transaction"].map String.toList

/-- `is_hot = any(hp in module for hp in [...])`。 -/
def isHotModule (module : List Char) : Bool := matchesAny hotModules module

/-- By Module の表の一行の欄。 -/
structure ModuleRow where
  module : List Char
  count : Nat
  hotStr : List Char
  priority : List Char
  deriving DecidableEq, Repr

/-- 一行の欄。印の文字列は source のとおりである。 -/
def moduleRow (module : List Char) (count : Nat) : ModuleRow :=
  { module, count
    hotStr := if isHotModule module then "âœ… Yes".toList else "No".toList
    priority := if isHotModule module then "ðŸ”´ Critical".toList else "ðŸŸ¢ Low".toList }

/-- 行の markdown。 -/
def ModuleRow.line (r : ModuleRow) : List Char :=
  "| `".toList ++ r.module ++ "` | ".toList ++ (toString r.count).toList ++ " | ".toList ++
    r.hotStr ++ " | ".toList ++ r.priority ++ " |".toList

/-- `sorted(summary['by_module'].items(), key=lambda x: -x[1])` の順の行。整列は安定である。 -/
def moduleRows (s : Summary) : List ModuleRow :=
  (s.byModule.mergeSort fun a b => decide (b.2 ≤ a.2)).map fun p => moduleRow p.1 p.2

/-! ## module の名前の `/` -/

theorem not_of_mem_splitOnP (p : Char → Bool) (l : List Char) :
    ∀ x ∈ l.splitOnP p, ∀ a ∈ x, p a = false := by
  induction l with
  | nil => simp [List.splitOnP_nil]
  | cons c l ih =>
    rw [List.splitOnP_cons]
    split
    · rintro x (_ | ⟨_, hx⟩)
      · simp
      · exact ih x hx
    · obtain ⟨h, t, ht⟩ := List.exists_cons_of_ne_nil (List.splitOnP_ne_nil p l)
      rw [ht, List.modifyHead_cons]
      rintro x (_ | ⟨_, hx⟩)
      · rintro a (_ | ⟨_, ha⟩)
        · simpa using ‹¬p c = true›
        · exact ih h (ht ▸ .head _) a ha
      · exact ih x (ht ▸ .tail _ hx)

theorem count_slash_splitOn {l x : List Char} (hx : x ∈ l.splitOn '/') : x.count '/' = 0 :=
  List.count_eq_zero.mpr fun h => by simpa using not_of_mem_splitOnP _ l x hx '/' h

/-- module の名前は `/` を高々一つ含む。 -/
theorem count_slash_moduleKey (path : List Char) : (moduleKey path).count '/' ≤ 1 := by
  unfold moduleKey
  split
  · next a b _ h =>
    have ha : a.count '/' = 0 := count_slash_splitOn (show a ∈ path.splitOn '/' by simp [h])
    have hb : b.count '/' = 0 := count_slash_splitOn (show b ∈ path.splitOn '/' by simp [h])
    simp [List.count_append, ha, hb]
  · next a h => exact (count_slash_splitOn (show a ∈ path.splitOn '/' by simp [h])).trans_le (by omega)
  · simp

/-- **module の名前は hot の印を含まない。** -/
theorem isHotModule_moduleKey (path : List Char) : isHotModule (moduleKey path) = false := by
  have htwo : ∀ hp ∈ hotModules, hp.count '/' = 2 := by decide
  rw [Bool.eq_false_iff]
  intro h
  obtain ⟨hp, hmem, hsub⟩ := List.any_eq_true.mp h
  have hle := (isSubstr_iff.mp hsub).count_le '/'
  have := count_slash_moduleKey path
  have := htwo hp hmem
  omega

/-! ## 表のどの行も hot でない -/

theorem mem_of_mem_foldl_bump {α : Type} [DecidableEq α] {L : List α} {k : α} {n : Nat}
    (h : (k, n) ∈ L.foldl bump []) : k ∈ L := by
  have hs := dictGet_isSome_of_mem h
  rw [dictGet_foldl_bump] at hs
  split at hs
  · cases hs
  · exact List.count_pos_iff.mp (Nat.pos_of_ne_zero ‹_›)

/-- **どの scan の後も、By Module の表のどの行も hot でない。** -/
theorem moduleRows_not_hot (c : Checker) :
    ∀ r ∈ moduleRows c.getSummary, r.hotStr = "No".toList ∧ r.priority = "ðŸŸ¢ Low".toList := by
  intro r hr
  obtain ⟨⟨m, n⟩, hp, rfl⟩ := List.mem_map.mp hr
  rw [List.mem_mergeSort, Checker.getSummary_eq] at hp
  obtain ⟨l, -, rfl⟩ := List.mem_map.mp (mem_of_mem_foldl_bump hp)
  simp [moduleRow, isHotModule_moduleKey]

/-- hot path のファイル `daemon/src/core/blockchain.rs` の finding が一つだけの木。 -/
def hotFileTree : List RsFile :=
  [⟨"daemon/src/core/blockchain.rs".toList, some ["trace!(\"\x7b\x7d\", h);".toList]⟩]

/-- その finding は hot path に数えられるが、module `daemon/src` の行は hot でない。 -/
theorem hotPathFile_row_not_hot :
    ((Checker.new "/w".toList).scanDirectory hotFileTree).getSummary.hotPath = 1 ∧
      moduleRows ((Checker.new "/w".toList).scanDirectory hotFileTree).getSummary =
        [⟨"daemon/src".toList, 1, "No".toList, "ðŸŸ¢ Low".toList⟩] := by
  have hm : ((Checker.new "/w".toList).scanDirectory hotFileTree).getSummary.byModule =
      [("daemon/src".toList, 1)] := by decide
  have hrow := moduleRows_not_hot ((Checker.new "/w".toList).scanDirectory hotFileTree)
  rw [moduleRows, hm, List.mergeSort_singleton] at hrow ⊢
  obtain ⟨hhot, hprio⟩ := hrow _ (.head _)
  refine ⟨by decide, ?_⟩
  rw [← hhot, ← hprio]
  rfl

end Tos.LogCheck
