import Tos.LogCheck.Markdown

/-!
# `generate_json_report`

JSON の報告を、`json.dumps` に渡す前の値として書く。`summary` は `get_summary`、`files` は path ごとの
`count` と `by_level`、`logs` は記録された finding を `files` の順、各ファイルの中の順に
`to_dict` したものである。文字列への書き出し（`json.dumps(report, indent=2)`）は書かない。

## 性質

何度 scan した後でも、`logs` の項目のうち `file` がある path のものは、`files` のその path の
`count` と同じ数だけあり、`line` の順に並ぶ（`jsonLogs_of_scans`）。`files` の key が重ならず、
記録の finding がどれもその key を path に持つ（`Checker.WF`）ことによる。
-/

namespace Tos.LogCheck

/-! ## 値 -/

/-- `UnoptimizedLog.to_dict` の dict。 -/
structure LogDict where
  file : List Char
  line : Nat
  level : List Char
  content : List Char
  hotPath : Bool
  test : Bool
  deriving DecidableEq, Repr

/-- `to_dict`。`content` は `strip()` する。 -/
def UnoptimizedLog.toDict (l : UnoptimizedLog) : LogDict :=
  ⟨l.filePath, l.lineNumber, l.logLevel.name, pyStrip l.content, l.isHotPath, l.isTest⟩

/-- `files` の値 `{'count': ..., 'by_level': ...}`。 -/
structure FileDict where
  count : Nat
  byLevel : List (Level × Nat)
  deriving DecidableEq, Repr

/-- `report` の dict。 -/
structure JsonReport where
  summary : Summary
  files : List (List Char × FileDict)
  logs : List LogDict
  deriving DecidableEq, Repr

/-- `generate_json_report` が `json.dumps` に渡す値。 -/
def Checker.jsonReport (c : Checker) : JsonReport :=
  { summary := c.getSummary
    files := c.files.map fun p => (p.1, ⟨p.2.count, p.2.byLevel⟩)
    logs := c.allLogs.map UnoptimizedLog.toDict }

/-! ## path ごとの項目 -/

theorem dictGet_map_snd {β γ : Type} (d : List (List Char × β)) (f : β → γ) (k : List Char) :
    dictGet (d.map fun p => (p.1, f p.2)) k = (dictGet d k).map f := by
  induction d with
  | nil => rfl
  | cons p d ih =>
    simp only [List.map_cons, dictGet]
    split <;> simp_all

theorem Checker.dictGet_jsonReport_files (c : Checker) (k : List Char) :
    dictGet c.jsonReport.files k = (dictGet c.files k).map fun s => (⟨s.count, s.byLevel⟩ : FileDict) :=
  dictGet_map_snd c.files (fun s => (⟨s.count, s.byLevel⟩ : FileDict)) k

theorem Checker.filter_jsonReport_logs (c : Checker) (k : List Char) :
    c.jsonReport.logs.filter (fun d => decide (d.file = k)) =
      (c.allLogs.filter fun l => decide (l.filePath = k)).map UnoptimizedLog.toDict := by
  rw [Checker.jsonReport, List.filter_map]
  rfl

/-- key が重ならず、どの記録の finding もその key を path に持てば、path で選んだ finding は
その key の記録の finding である。 -/
theorem filter_allLogs_of_nodup {d : List (List Char × FileStats)} (hn : (d.map Prod.fst).Nodup)
    (hfile : ∀ p ∈ d, ∀ l ∈ p.2.logs, l.filePath = p.1) (k : List Char) :
    (d.flatMap fun p => p.2.logs).filter (fun l => decide (l.filePath = k)) =
      ((dictGet d k).map FileStats.logs).getD [] := by
  induction d with
  | nil => rfl
  | cons p d ih =>
    obtain ⟨k₀, s⟩ := p
    rw [List.map_cons, List.nodup_cons] at hn
    have hs : ∀ l ∈ s.logs, l.filePath = k₀ := hfile (k₀, s) (.head _)
    rw [List.flatMap_cons, List.filter_append, ih hn.2 fun p hp => hfile p (.tail _ hp), dictGet]
    by_cases hk : k₀ = k
    · subst hk
      rw [List.filter_eq_self.mpr fun l hl => by simp [hs l hl], if_pos rfl,
        dictGet_of_not_mem hn.1]
      exact List.append_nil _
    · rw [List.filter_eq_nil_iff.mpr fun l hl => by simp [hs l hl, hk], if_neg hk]
      exact List.nil_append _

/--
**JSON の `logs` と `files` は食い違わない。** 何度 scan した後でも、どの path `k` についても、
`logs` の項目のうち `file` が `k` のものは `files[k]['count']` と同じ数だけあり（`k` が `files` に
なければ一つもない）、`line` の順に並ぶ。
-/
theorem jsonLogs_of_scans (rootDir : List Char) (trees : List (List RsFile)) (k : List Char) :
    let r := ((Checker.new rootDir).scanAll trees).jsonReport
    (r.logs.filter fun d => decide (d.file = k)).length =
        ((dictGet r.files k).map FileDict.count).getD 0 ∧
      (r.logs.filter fun d => decide (d.file = k)).Pairwise fun a b => a.line < b.line := by
  have hc := (Checker.WF.new rootDir).scanAll trees
  have hf := filter_allLogs_of_nodup hc.nodup (fun _ hp _ hl => (hc.log_of_mem hp hl).1) k
  dsimp only
  rw [Checker.filter_jsonReport_logs, Checker.dictGet_jsonReport_files, Option.map_map,
    Checker.allLogs, hf]
  cases h : dictGet ((Checker.new rootDir).scanAll trees).files k with
  | none => exact ⟨rfl, List.Pairwise.nil⟩
  | some s =>
    have hs := (hc.entry _ (mem_of_dictGet h)).2
    exact ⟨List.length_map _ _, List.pairwise_map.mpr hs.sorted⟩

end Tos.LogCheck
