import Tos.ApiTests.Regex
/-!
# `fix_block_tests.py`

`fix_block_structure_references` は、API の test を平らな block の形に合わせる。入れ子の参照
`block["header"]["field"]` と `block.header["field"]` を `block["field"]` に、
`header = block["header"]` と `assert "header" in block` を平らな形の行に、四つの `re.sub` で順に
書き換える。ファイルを読み書きする `main` は書かない。

## 性質

* 行ごとに書き換える：改行でつないだ行の書き換えは、各行の書き換えを改行でつないだものであり、
  改行のない行は改行のない行になる（`fixBlockStructureReferences_lines`）。
* `header` という文字列を含まない test は変わらない（`fixBlockStructureReferences_of_no_header`）。
* 書き換えの後には、`block.header["..."]`、`header = block["header"]`、`assert "header" in block` の
  一致は残らない（`fixBlockStructureReferences_search`）。どの置き換えも、自分の正規表現とそれより
  前の置き換えの正規表現に対して `Disjoint` だからである。`block["header"]["..."]` だけは残りうる：
  `block["header"]["header"]["id"]` は一度目の置き換えで `block["header"]["id"]` になり、
  `re.sub` は置き換えた文字列を探し直さない。
-/

namespace Tos.ApiTests

/-! ## 四つの置き換え -/

/-- Pattern 1：`block\["header"\]\["(\w+)"\]`。 -/
def nestedHeaderIndex : List Atom :=
  lits "block[\"header\"][\"".toList ++ .word :: lits "\"]".toList

/-- Pattern 2：`block\.header\["(\w+)"\]`。 -/
def headerAttrIndex : List Atom :=
  lits "block.header[\"".toList ++ .word :: lits "\"]".toList

/-- Pattern 3：`header = block\["header"\]`。 -/
def headerAlias : List Atom := lits "header = block[\"header\"]".toList

/-- Pattern 4：`assert "header" in block`。 -/
def headerAssert : List Atom := lits "assert \"header\" in block".toList

/-- Pattern 1 と 2 の置き換え `block["\1"]`。 -/
def flatIndex (w : List Char) : List Char := "block[\"".toList ++ w ++ "\"]".toList

/-- Pattern 3 の置き換え。 -/
def flatAlias : List Char := "header = block  # Block structure is flat".toList

/-- Pattern 4 の置き換え。 -/
def flatAssert : List Char := "assert \"hash\" in block  # Block structure is flat".toList

/-- `fix_block_structure_references`。 -/
def fixBlockStructureReferences (content : List Char) : List Char :=
  let content := reSub nestedHeaderIndex flatIndex content
  let content := reSub headerAttrIndex flatIndex content
  let content := reSub headerAlias (fun _ => flatAlias) content
  reSub headerAssert (fun _ => flatAssert) content

/-! ## 行ごとの書き換え -/

theorem fixBlockStructureReferences_append_newline (x y : List Char) :
    fixBlockStructureReferences (x ++ '\n' :: y) =
      fixBlockStructureReferences x ++ '\n' :: fixBlockStructureReferences y := by
  simp only [fixBlockStructureReferences]
  rw [@reSub_append_newline nestedHeaderIndex _ (by decide) (by decide),
    @reSub_append_newline headerAttrIndex _ (by decide) (by decide),
    @reSub_append_newline headerAlias _ (by decide) (by decide),
    @reSub_append_newline headerAssert _ (by decide) (by decide)]

theorem intercalate_newline_cons_cons (l l' : List Char) (ls : List (List Char)) :
    ['\n'].intercalate (l :: l' :: ls) = l ++ '\n' :: ['\n'].intercalate (l' :: ls) := by
  simp [List.intercalate, List.intersperse_cons_cons]

theorem fixBlockStructureReferences_intercalate : ∀ lines : List (List Char),
    fixBlockStructureReferences (['\n'].intercalate lines) =
      ['\n'].intercalate (lines.map fixBlockStructureReferences)
  | [] => rfl
  | [_] => by simp [List.intercalate]
  | l :: l' :: ls => by
    rw [intercalate_newline_cons_cons, fixBlockStructureReferences_append_newline,
      fixBlockStructureReferences_intercalate (l' :: ls)]
    simp only [List.map_cons, intercalate_newline_cons_cons]

theorem newline_not_mem_flatIndex {w : List Char} (hw : w.all isWordChar = true) :
    '\n' ∉ flatIndex w := by
  intro h
  simp only [flatIndex, List.mem_append] at h
  rcases h with (h | h) | h
  · exact absurd h (by decide)
  · exact absurd (List.all_eq_true.mp hw _ h) (by decide)
  · exact absurd h (by decide)

theorem newline_not_mem_fixBlockStructureReferences {line : List Char} (h : '\n' ∉ line) :
    '\n' ∉ fixBlockStructureReferences line :=
  not_mem_reSub (not_mem_reSub (not_mem_reSub (not_mem_reSub h fun _ => newline_not_mem_flatIndex)
    fun _ => newline_not_mem_flatIndex) fun _ _ => by decide) fun _ _ => by decide

/--
**行ごとに書き換える。** 改行でつないだ行の書き換えは、各行の書き換えを改行でつないだものであり、
改行のない行の書き換えに改行はない。四つの正規表現はどれも改行に一致しないからである。
-/
theorem fixBlockStructureReferences_lines :
    (∀ lines : List (List Char), fixBlockStructureReferences (['\n'].intercalate lines) =
      ['\n'].intercalate (lines.map fixBlockStructureReferences)) ∧
    ∀ line : List Char, '\n' ∉ line → '\n' ∉ fixBlockStructureReferences line :=
  ⟨fixBlockStructureReferences_intercalate, fun _ => newline_not_mem_fixBlockStructureReferences⟩

/-! ## `header` を含まない test -/

/-- `header` を含む文字列で始まる正規表現の置き換えは、`header` を含まない文字列を変えない。 -/
theorem reSub_eq_self_of_no_header {q : List Atom} {p : List Char} {rest : List Atom}
    (hq : q = lits p ++ rest) (hp : "header".toList <:+: p) (repl : List Char → List Char)
    {s : List Char} (hs : ¬ "header".toList <:+: s) : reSub q repl s = s :=
  reSub_eq_self repl (Bool.eq_false_iff.mpr fun h => hs (hp.trans (infix_of_search_lits (hq ▸ h))))

/-- **`header` という文字列を含まない test は変わらない。** -/
theorem fixBlockStructureReferences_of_no_header {content : List Char}
    (h : ¬ "header".toList <:+: content) : fixBlockStructureReferences content = content := by
  have e₁ : reSub nestedHeaderIndex flatIndex content = content :=
    reSub_eq_self_of_no_header (p := "block[\"header\"][\"".toList) rfl (by decide) _ h
  have e₂ : reSub headerAttrIndex flatIndex content = content :=
    reSub_eq_self_of_no_header (p := "block.header[\"".toList) rfl (by decide) _ h
  have e₃ : reSub headerAlias (fun _ => flatAlias) content = content :=
    reSub_eq_self_of_no_header (List.append_nil _).symm (by decide) _ h
  have e₄ : reSub headerAssert (fun _ => flatAssert) content = content :=
    reSub_eq_self_of_no_header (List.append_nil _).symm (by decide) _ h
  simp only [fixBlockStructureReferences, e₁, e₂, e₃, e₄]

/-- 平らな block だけを読む test。 -/
def flatBlockTest : List Char := "assert \"hash\" in block\nassert block[\"height\"] > 0".toList

theorem fixBlockStructureReferences_flatBlockTest :
    ¬ "header".toList <:+: flatBlockTest ∧ fixBlockStructureReferences flatBlockTest = flatBlockTest :=
  ⟨by decide, fixBlockStructureReferences_of_no_header (by decide)⟩

/-! ## 書き換えの後に残らない参照 -/

/-- 単語の文字の列と `"` からは、単語の文字の列と、単語の文字でも `"` でもない `c₀` で始まる
正規表現の一致は始まらない。 -/
theorem diesOn_word_quote {p : List Char} {c₀ : Char} {rest : List Atom}
    (hp : p.all isWordChar = true) (hc₀ : isWordChar c₀ = false) (hq : c₀ ≠ '"') (X : List Char) :
    ∀ v : List Char, v.all isWordChar = true →
      State.diesOn ⟨lits p ++ .lit c₀ :: rest, false⟩ (v ++ '"' :: X) = true := by
  intro v hv
  induction v generalizing p with
  | nil =>
    cases p with
    | nil => simp [State.diesOn, State.deriv, derivPat, lits, hq]
    | cons a p =>
      have ha : a ≠ '"' := by rintro rfl; simp [show isWordChar '"' = false by decide] at hp
      simp [State.diesOn, State.deriv, derivPat, lits, ha]
  | cons b v ih =>
    simp only [List.all_cons, Bool.and_eq_true] at hv
    cases p with
    | nil =>
      have hb : c₀ ≠ b := by rintro rfl; rw [hv.1] at hc₀; cases hc₀
      simp [State.diesOn, State.deriv, derivPat, lits, hb]
    | cons a p =>
      simp only [List.all_cons, Bool.and_eq_true] at hp
      by_cases hab : a = b
      · subst hab
        simpa [State.diesOn, State.deriv, derivPat, lits] using ih hp.2 hv.2
      · simp [State.diesOn, State.deriv, derivPat, lits, hab]

/-- `block["\1"]` は `block.header["..."]` と重ならない。 -/
theorem disjoint_headerAttrIndex_flatIndex : Disjoint headerAttrIndex flatIndex where
  start w hw := by
    have hword : diesAll headerAttrIndex (w ++ "\"]".toList) = true := by
      induction w with
      | nil => decide
      | cons c w ih =>
        simp only [List.all_cons, Bool.and_eq_true] at hw
        simp only [List.cons_append, diesAll, Bool.and_eq_true]
        exact ⟨@diesOn_word_quote "block".toList '.'
          (lits "header[\"".toList ++ .word :: lits "\"]".toList) (by decide) (by decide)
          (by decide) [']'] (c :: w) (by simp [hw]), ih hw.2⟩
    rw [flatIndex, List.append_assoc]
    exact diesAll_append (by decide) hword
  cont w _ σ hσ hne := by
    have h := List.all_eq_true.mp (show (partials headerAttrIndex).all
      (fun σ => σ.pat.isEmpty || σ.diesOn "block[\"".toList) = true by decide) σ hσ
    rw [Bool.or_eq_true, List.isEmpty_iff] at h
    rw [flatIndex, List.append_assoc]
    exact State.diesOn_append _ (h.resolve_left hne)

/--
**書き換えの後には、入れ子の `block.header["..."]`、`header = block["header"]`、
`assert "header" in block` は残らない。** どの test の書き換えでも、この三つの正規表現の
`re.search` は何も見つけない。
-/
theorem fixBlockStructureReferences_search (content : List Char) :
    search headerAttrIndex (fixBlockStructureReferences content) = false ∧
      search headerAlias (fixBlockStructureReferences content) = false ∧
      search headerAssert (fixBlockStructureReferences content) = false := by
  simp only [fixBlockStructureReferences]
  generalize reSub nestedHeaderIndex flatIndex content = s₁
  have h₂ := @search_reSub headerAttrIndex _ _ (by decide) disjoint_headerAttrIndex_flatIndex
    s₁ (.inl rfl)
  generalize reSub headerAttrIndex flatIndex s₁ = s₂ at h₂ ⊢
  have h₂' := @search_reSub headerAlias _ (fun _ => flatAlias) (by decide)
    (.of_lit (by decide)) s₂ (.inr h₂)
  have h₃ := @search_reSub headerAlias headerAlias (fun _ => flatAlias) (by decide)
    (.of_lit (by decide)) s₂ (.inl rfl)
  generalize reSub headerAlias (fun _ => flatAlias) s₂ = s₃ at h₂' h₃ ⊢
  exact ⟨search_reSub (by decide) (.of_lit (by decide)) s₃ (.inr h₂'),
    search_reSub (by decide) (.of_lit (by decide)) s₃ (.inr h₃),
    search_reSub (by decide) (.of_lit (by decide)) s₃ (.inl rfl)⟩

/-- `block["header"]["..."]` は残りうる。 -/
example : search nestedHeaderIndex
    (fixBlockStructureReferences "block[\"header\"][\"header\"][\"id\"]".toList) = true := by
  decide

end Tos.ApiTests
