import Tos.LogCheck.Append

/-!
# 報告の直し方

`generate_markdown_report` の "How to Fix" は、報告された呼び出しを
`if log::log_enabled!(log::Level::Lv) {` と `}` で包めと言う（`applyFix`）。
直した後のファイルの finding は、直した呼び出しが消え、残りがそれぞれの行の新しい位置に
移ったものになるか。

## いつもそうなるわけではない

`check_file` が追う guard は一つだけなので、他の guard の block の中で直すと、入れた guard が
外の guard を上書きし、入れた `}` で追跡が終わる。外の block の残りの呼び出しが新しく報告される
（`fixInsideGuard_reports_more`）。

## そうなる場合

直す行の前で guard が開いておらず（`NoOpenGuard`）、文の行に guard の行がなく、
前の行の文が直す行より前で閉じていれば、finding は期待の通りに動く（`applyFix_local`）。

証明はファイルを前（`P`）、文（`S`）、後ろ（`Q`）の三つに分け、宣言的な定義の上で行う。
前の行の finding は後ろに何があっても変わらず（`specEntry_append_left`）、後ろの行の finding は、
つなぎ目で guard が開いていなければ後ろの行だけで決まり、ずれるだけである（`specEntry_append_right`）。
直した後のつなぎ目では、入れた guard が入れた `}` で閉じている。
-/

namespace Tos.LogCheck

/-! ## 直し方 -/

/-- "How to Fix" の一行目。`LOG_LEVELS` の名前で level を書く。 -/
def fixOpenLine (lv : Level) : Line :=
  "if log::log_enabled!(log::Level::".toList ++ lv.capName ++ ") \x7b".toList

/-- "How to Fix" の最後の行。 -/
def fixCloseLine : Line := "\x7d".toList

/-- 行 `i .. j` の文を guard で包む。 -/
def applyFix (lines : List Line) (i j : Nat) (lv : Level) : List Line :=
  lines.take i ++
    ((fixOpenLine lv :: (lines.drop i).take (j + 1 - i) ++ [fixCloseLine]) ++ lines.drop (j + 1))

/-- 直す前の finding の、直した後の姿。行 `i` の finding は消え、それより後ろは二行下がる。 -/
def fixShift (i : Nat) (f : UnoptimizedLog) : Option UnoptimizedLog :=
  if f.lineNumber = i + 1 then none
  else if f.lineNumber ≤ i then some f
  else some (f.shift 2)

theorem fixShift_of_le {i : Nat} {f : UnoptimizedLog} (h : f.lineNumber ≤ i) :
    fixShift i f = some f := by
  rw [fixShift, if_neg (by omega), if_pos h]

theorem fixShift_self {i : Nat} {f : UnoptimizedLog} (h : f.lineNumber = i + 1) :
    fixShift i f = none := by
  rw [fixShift, if_pos h]

theorem fixShift_of_gt {i : Nat} {f : UnoptimizedLog} (h : i + 1 < f.lineNumber) :
    fixShift i f = some (f.shift 2) := by
  rw [fixShift, if_neg (by omega), if_neg (by omega)]

@[simp] theorem UnoptimizedLog.lineNumber_shift (n : Nat) (f : UnoptimizedLog) :
    (f.shift n).lineNumber = f.lineNumber + n := rfl

@[simp] theorem UnoptimizedLog.shift_shift (a b : Nat) (f : UnoptimizedLog) :
    (f.shift a).shift b = f.shift (a + b) := by
  simp [UnoptimizedLog.shift, Nat.add_assoc]

theorem guardLevel_fixOpenLine (lv : Level) : guardLevel (fixOpenLine lv) = some lv.name := by
  cases lv <;> decide

theorem braceDelta_fixOpenLine (lv : Level) : braceDelta (fixOpenLine lv) = 1 := by
  cases lv <;> decide

theorem guardLevel_fixCloseLine : guardLevel fixCloseLine = none := by decide

theorem logMatch_fixCloseLine : logMatch fixCloseLine = none := by decide

theorem braceDelta_fixCloseLine : braceDelta fixCloseLine = -1 := by decide

/-! ## 他の guard の中で直す -/

/-- Trace の guard の中の Debug の呼び出し（行 3）。 -/
def traceBlockFile : List Line :=
  ["if log::log_enabled!(log::Level::Trace) \x7b".toList,
    "    trace!(\"\x7b\x7d\", a);".toList,
    "    debug!(\"\x7b\x7d\", b);".toList,
    "    trace!(\"\x7b\x7d\", c);".toList,
    "\x7d".toList]

/-- 行 3 を直すと、行 4 だった Trace の呼び出し（直した後の行 6）が新しく報告される。 -/
theorem fixInsideGuard_reports_more :
    (∃ f ∈ logsOf (checkFile [] (some traceBlockFile)), f.lineNumber = 3 ∧ f.logLevel = .debug) ∧
      stmtEnd traceBlockFile 2 = 2 ∧
      (∀ t, 2 < t → t ≤ 2 → logMatch (traceBlockFile.getD t []) = none) ∧
      (∀ m, 2 ≤ m → m ≤ 2 → 0 ≤ braceCount traceBlockFile 2 m) ∧
      braceCount traceBlockFile 2 2 = 0 ∧
      logsOf (checkFile [] (some (applyFix traceBlockFile 2 2 .debug))) ≠
        (logsOf (checkFile [] (some traceBlockFile))).filterMap (fixShift 2) :=
  ⟨by decide, by decide, fun t h₁ h₂ => absurd h₂ (by omega),
    fun m h₁ h₂ => by rw [show m = 2 by omega]; decide, by decide, by decide⟩

/-! ## 三つに分ける -/

section Split

variable (relPath : List Char)

theorem stmtEnd_bounds {lines : List Line} {i : Nat} (hi : i < lines.length) :
    i ≤ stmtEnd lines i ∧ stmtEnd lines i < lines.length := by
  rw [stmtEnd]
  cases h : (List.range' i (lines.length - i)).find? _ with
  | none => simp only [Option.getD_none]; omega
  | some j =>
    have := List.mem_range'_1.mp (List.mem_of_find?_eq_some h)
    simp only [Option.getD_some]
    omega

theorem specEntry_of_logMatch_none {L : List Line} {y : Nat} (h : logMatch (L.getD y []) = none) :
    specEntry relPath L y = none := by
  unfold specEntry
  rw [h]
  cases guardLevel (L.getD y []) <;> rfl

theorem specEntry_of_guard {L : List Line} {y : Nat} (h : guardLevel (L.getD y []) ≠ none) :
    specEntry relPath L y = none := by
  unfold specEntry
  cases hg : guardLevel (L.getD y []) with
  | none => exact absurd hg h
  | some g => rfl

theorem specEntry_of_guardOpen {L : List Line} {y : Nat} {lv : Level}
    (hm : logMatch (L.getD y []) = some lv) (ho : GuardOpen L y lv) : specEntry relPath L y = none := by
  unfold specEntry
  rw [hm]
  cases guardLevel (L.getD y []) with
  | none => exact if_neg fun h => h.2 ho
  | some g => rfl

theorem lineNumber_le_of_mem {L : List Line} {f : UnoptimizedLog}
    (hf : f ∈ specFindings relPath L) : 0 < f.lineNumber ∧ f.lineNumber ≤ L.length := by
  obtain ⟨x, hx, he⟩ := mem_specFindings.mp hf
  obtain ⟨lv, -, -, -, -, rfl⟩ := specEntry_eq_some.mp he
  exact ⟨Nat.succ_pos x, hx⟩

/--
**三つに分けたファイルの finding。** 前の行の文が前の行の中で閉じ、真ん中の後で guard が
開いていなければ、前の行の finding、真ん中の finding、後ろの行の finding をずらしたもの、の順に並ぶ。
-/
theorem specFindings_split {P M Q : List Line}
    (hP : ∀ x < P.length, guardLevel (P.getD x []) = none → logMatch (P.getD x []) ≠ none →
      ClosesWithin P x)
    (hPM : NoOpenGuard (P ++ M) (P ++ M).length) :
    specFindings relPath (P ++ (M ++ Q)) = specFindings relPath P ++
      ((List.range M.length).filterMap fun u => specEntry relPath (P ++ (M ++ Q)) (P.length + u)) ++
      (specFindings relPath Q).map (UnoptimizedLog.shift (P.length + M.length)) := by
  rw [specFindings_append, List.length_append, List.range_add, List.filterMap_append,
    List.filterMap_map, List.append_assoc]
  congr 1
  · exact List.filterMap_congr fun x hx =>
      specEntry_append_left relPath (List.mem_range.mp hx) (hP x (List.mem_range.mp hx))
  · congr 1
    rw [specFindings, List.map_filterMap]
    refine List.filterMap_congr fun w _ => ?_
    rw [Function.comp_apply, ← List.append_assoc, ← Nat.add_assoc, ← List.length_append,
      specEntry_append_right relPath hPM w, List.length_append]

end Split

/-! ## 直した後の finding -/

section Local

variable (relPath : List Char)

theorem rangeCount_take {δ : Line → Int} {lines : List Line} {n k m : Nat} (hm : m < n)
    (hn : n ≤ lines.length) : rangeCount δ (lines.take n) k m = rangeCount δ lines k m := by
  conv_rhs => rw [← List.take_append_drop n lines]
  exact (rangeCount_append (by simp; omega)).symm

theorem getD_take {lines : List Line} {n y : Nat} (hy : y < n) :
    (lines.take n).getD y [] = lines.getD y [] := by
  rw [List.getD_eq_getElem?_getD, List.getElem?_take, if_pos hy, ← List.getD_eq_getElem?_getD]

/-- 文の行に guard がなく、文の前で guard が開いていなければ、文の後でも開いていない。 -/
theorem noOpenGuard_take {lines : List Line} {x j : Nat} (hnoOpen : NoOpenGuard lines x)
    (hxj : x ≤ j) (hjl : j < lines.length) (hguards : ∀ t, x ≤ t → t ≤ j → guardLevel (lines.getD t []) = none) :
    NoOpenGuard (lines.take (j + 1)) (j + 1) := by
  rintro k hk ⟨-, hg, hn⟩ hstay
  rw [getD_take hk] at hg
  have hkx : k < x := by
    by_contra h
    exact hg (hguards k (by omega) (by omega))
  refine hnoOpen k hkx ⟨hkx, hg, fun k' hk' hlt => ?_⟩ fun m hm hkm => ?_
  · rw [← getD_take (show k' < j + 1 by omega)]
    exact hn k' (by omega) hlt
  · have := hstay m (by omega) hkm
    rwa [braceCount, rangeCount_take (by omega) (by omega)] at this

/-- 入れた guard は、入れた `}` で閉じる。 -/
theorem noOpenGuard_fixed (P S : List Line) (lv : Level)
    (hS : ∀ u < S.length, guardLevel (S.getD u []) = none) (hsum : (S.map braceDelta).sum = 0) :
    NoOpenGuard (P ++ (fixOpenLine lv :: S ++ [fixCloseLine]))
      (P ++ (fixOpenLine lv :: S ++ [fixCloseLine])).length := by
  have hget : ∀ u, (P ++ (fixOpenLine lv :: S ++ [fixCloseLine])).getD (P.length + u) [] =
      (fixOpenLine lv :: (S ++ [fixCloseLine])).getD u [] := fun u => by
    rw [getD_append_length_add, List.cons_append]
  rintro k hk ⟨-, hg, hn⟩ hstay
  simp only [List.length_append, List.length_cons, List.length_nil] at hk hn hstay
  have hkP : k = P.length := by
    rcases Nat.lt_trichotomy k P.length with h | h | h
    · have := hn P.length (by omega) h
      rw [← Nat.add_zero P.length, hget, List.getD_cons_zero, guardLevel_fixOpenLine] at this
      cases this
    · exact h
    · obtain ⟨u, rfl⟩ := Nat.exists_eq_add_of_lt h
      rw [Nat.add_assoc, hget, List.getD_cons_succ] at hg
      by_cases hu : u < S.length
      · rw [List.getD_append _ _ _ _ hu] at hg
        exact absurd (hS u hu) hg
      · rw [List.getD_append_right _ _ _ _ (by omega), show u - S.length = 0 by omega,
          List.getD_cons_zero, guardLevel_fixCloseLine] at hg
        exact (hg rfl).elim
  subst hkP
  have hcount := @rangeCount_append_right P (fixOpenLine lv :: S ++ [fixCloseLine]) braceDelta 0
    (S.length + 1)
  rw [Nat.add_zero] at hcount
  have := hstay (P.length + (S.length + 1)) (by omega) (by omega)
  rw [braceCount, hcount, rangeCount, List.drop_zero,
    List.take_of_length_le (by simp)] at this
  simp [braceDelta_fixOpenLine, braceDelta_fixCloseLine, hsum] at this

/-- 直す前の文の行の finding は、直す呼び出しの一つだけである。 -/
theorem filterMap_stmt_orig {lines P S Q : List Line} {x : Nat} {f : UnoptimizedLog}
    (hsplit : P ++ (S ++ Q) = lines) (hP : P.length = x) (hSne : 0 < S.length)
    (hfe : specEntry relPath lines x = some f)
    (hcalls : ∀ u, 0 < u → u < S.length → logMatch (lines.getD (x + u) []) = none) :
    ((List.range S.length).filterMap fun u => specEntry relPath (P ++ (S ++ Q)) (P.length + u)) =
      [f] := by
  obtain ⟨n, hn⟩ := Nat.exists_eq_add_of_lt hSne
  rw [hsplit, hP, hn, List.range_succ_eq_map, List.filterMap_cons, Nat.add_zero, hfe,
    List.filterMap_map, List.filterMap_eq_nil_iff.mpr]
  intro u hu
  exact specEntry_of_logMatch_none relPath (hcalls (u + 1) (by omega) (by simp at hu; omega))

/-- 直した後の文の行（入れた二行を含む）には finding がない。 -/
theorem filterMap_stmt_fixed {P S Q : List Line} {lv : Level} (hSne : 0 < S.length)
    (hS0 : 0 ≤ braceDelta (S.getD 0 [])) (hS0m : logMatch (S.getD 0 []) = some lv)
    (hSn : ∀ u, 0 < u → u < S.length → logMatch (S.getD u []) = none) :
    ((List.range (fixOpenLine lv :: S ++ [fixCloseLine]).length).filterMap fun u =>
      specEntry relPath (P ++ ((fixOpenLine lv :: S ++ [fixCloseLine]) ++ Q)) (P.length + u)) =
      [] := by
  have hget : ∀ u, (P ++ ((fixOpenLine lv :: S ++ [fixCloseLine]) ++ Q)).getD (P.length + u) [] =
      (fixOpenLine lv :: (S ++ fixCloseLine :: Q)).getD u [] := fun u => by
    rw [getD_append_length_add]
    simp only [List.cons_append, List.append_assoc, List.singleton_append, List.nil_append]
  refine List.filterMap_eq_nil_iff.mpr fun u hu => ?_
  simp only [List.mem_range, List.length_append, List.length_cons, List.length_nil] at hu
  rcases u with _ | u
  · apply specEntry_of_guard
    rw [hget, List.getD_cons_zero, guardLevel_fixOpenLine]
    exact Option.some_ne_none _
  · by_cases hu0 : u = 0
    · subst hu0
      have hline : (P ++ ((fixOpenLine lv :: S ++ [fixCloseLine]) ++ Q)).getD (P.length + 1) [] =
          S.getD 0 [] := by
        rw [hget, List.getD_cons_succ, List.getD_append _ _ _ _ hSne]
      refine specEntry_of_guardOpen relPath (by rw [hline]; exact hS0m)
        ⟨P.length, by omega, ?_, fun k' hk' hlt => absurd hk' (by omega), fun m hm hkm => ?_⟩
      · rw [← Nat.add_zero P.length, hget, List.getD_cons_zero, guardLevel_fixOpenLine]
      · obtain rfl : m = P.length + 1 := by omega
        have hcount := @rangeCount_append_right P
          ((fixOpenLine lv :: S ++ [fixCloseLine]) ++ Q) braceDelta 0 1
        rw [Nat.add_zero] at hcount
        obtain ⟨s₀, S', rfl⟩ := List.exists_cons_of_length_pos hSne
        rw [braceCount, hcount]
        simp only [rangeCount, List.drop_zero, List.cons_append, List.take_succ_cons,
          List.take_zero, List.map_cons, List.map_nil, List.sum_cons, List.sum_nil,
          braceDelta_fixOpenLine]
        simp only [List.getD_cons_zero] at hS0
        omega
    · apply specEntry_of_logMatch_none
      rw [hget, List.getD_cons_succ]
      by_cases hus : u < S.length
      · rw [List.getD_append _ _ _ _ hus]
        exact hSn u (by omega) hus
      · rw [List.getD_append_right _ _ _ _ (by omega), show u - S.length = 0 by omega,
          List.getD_cons_zero, logMatch_fixCloseLine]

/--
**直す呼び出しの前で guard が開いておらず、文の行に guard の行がなく、前の行の文が直す行より前で
閉じていれば、直した後の finding は、直した呼び出しを除く元の finding をそれぞれの新しい位置に
移したものである。**
-/
theorem applyFix_local (relPath : List Char) (lines : List Line) (i j : Nat) (lv : Level)
    (hfind : ∃ f ∈ logsOf (checkFile relPath (some lines)), f.lineNumber = i + 1 ∧ f.logLevel = lv)
    (hend : stmtEnd lines i = j)
    (hcalls : ∀ t, i < t → t ≤ j → logMatch (lines.getD t []) = none)
    (hnonneg : ∀ m, i ≤ m → m ≤ j → 0 ≤ braceCount lines i m) (hbal : braceCount lines i j = 0)
    (hnoOpen : NoOpenGuard lines i)
    (hguards : ∀ t, i ≤ t → t ≤ j → guardLevel (lines.getD t []) = none)
    (hclosed : ∀ p < i, guardLevel (lines.getD p []) = none → logMatch (lines.getD p []) ≠ none →
      ClosesWithin (lines.take i) p) :
    logsOf (checkFile relPath (some (applyFix lines i j lv))) =
      (logsOf (checkFile relPath (some lines))).filterMap (fixShift i) := by
  rw [logsOf_checkFile_eq_spec] at hfind ⊢
  rw [logsOf_checkFile_eq_spec]
  obtain ⟨f, hf, hfl, rfl⟩ := hfind
  obtain ⟨x, hx, hfe⟩ := mem_specFindings.mp hf
  obtain ⟨lv', -, hm, -, -, hfx⟩ := specEntry_eq_some.mp hfe
  obtain rfl : x = i := by rw [hfx] at hfl; simpa using hfl
  have hlv : lv' = f.logLevel := by rw [hfx]
  obtain ⟨hij, hjl⟩ := hend ▸ stmtEnd_bounds hx
  have hSlen : ((lines.drop x).take (j + 1 - x)).length = j + 1 - x := by
    rw [List.length_take, List.length_drop]; omega
  have hPlen : (lines.take x).length = x := by rw [List.length_take]; omega
  have hsplit : lines.take x ++ ((lines.drop x).take (j + 1 - x) ++ lines.drop (j + 1)) = lines := by
    have h := List.take_append_drop (j + 1 - x) (lines.drop x)
    rw [List.drop_drop, show x + (j + 1 - x) = j + 1 by omega] at h
    rw [h, List.take_append_drop]
  have hSget : ∀ u < j + 1 - x,
      ((lines.drop x).take (j + 1 - x)).getD u [] = lines.getD (x + u) [] := fun u hu => by
    rw [getD_take hu, List.getD_eq_getElem?_getD, List.getElem?_drop,
      ← List.getD_eq_getElem?_getD]
  have hP : ∀ y < (lines.take x).length, guardLevel ((lines.take x).getD y []) = none →
      logMatch ((lines.take x).getD y []) ≠ none → ClosesWithin (lines.take x) y :=
    fun y hy hg hm => hclosed y (by omega) (by rwa [getD_take (by omega)] at hg)
      (by rwa [getD_take (by omega)] at hm)
  have hPS : NoOpenGuard (lines.take x ++ (lines.drop x).take (j + 1 - x))
      (lines.take x ++ (lines.drop x).take (j + 1 - x)).length := by
    rw [← List.take_add, show x + (j + 1 - x) = j + 1 by omega, List.length_take,
      min_eq_left (by omega)]
    exact noOpenGuard_take hnoOpen hij hjl hguards
  have hPM := noOpenGuard_fixed (lines.take x) ((lines.drop x).take (j + 1 - x)) f.logLevel
    (fun u hu => by rw [hSget u (by omega)]; exact hguards _ (by omega) (by omega)) hbal
  have hSne : 0 < ((lines.drop x).take (j + 1 - x)).length := by omega
  rw [applyFix, specFindings_split relPath hP hPM,
    filterMap_stmt_fixed relPath hSne
      (by rw [hSget 0 (by omega), Nat.add_zero, ← rangeCount_self braceDelta_nil]
          exact hnonneg x le_rfl hij)
      (by rw [hSget 0 (by omega), Nat.add_zero, hm, hlv])
      (fun u hu hus => by rw [hSget u (by omega)]; exact hcalls _ (by omega) (by omega))]
  conv_rhs => rw [← hsplit, specFindings_split relPath hP hPS,
    filterMap_stmt_orig relPath hsplit hPlen hSne hfe
      (fun u hu hus => hcalls _ (by omega) (by omega))]
  rw [List.filterMap_append, List.filterMap_append, List.filterMap_cons, fixShift_self hfl,
    List.filterMap_nil, List.append_nil, List.append_nil, List.filterMap_map]
  congr 1
  · conv_lhs => rw [← List.filterMap_some (specFindings relPath (lines.take x))]
    exact List.filterMap_congr fun g hg =>
      (fixShift_of_le ((lineNumber_le_of_mem relPath hg).2.trans hPlen.le)).symm
  · rw [← List.filterMap_eq_map]
    refine List.filterMap_congr fun g hg => ?_
    have := (lineNumber_le_of_mem relPath hg).1
    simp only [Function.comp_apply]
    rw [fixShift_of_gt (by rw [UnoptimizedLog.lineNumber_shift, hSlen]; omega),
      UnoptimizedLog.shift_shift]
    congr 2
    simp only [List.length_append, List.length_cons, List.length_nil]
    omega

/-- Trace と Debug の呼び出しが一つずつ並ぶ。 -/
def twoCallsFile : List Line :=
  ["trace!(\"\x7b\x7d\", a);".toList, "debug!(\"\x7b\x7d\", b);".toList]

theorem applyFix_local_second_call :
    logsOf (checkFile [] (some (applyFix twoCallsFile 1 1 .debug))) =
      (logsOf (checkFile [] (some twoCallsFile))).filterMap (fixShift 1) :=
  applyFix_local [] twoCallsFile 1 1 .debug (by decide) (by decide)
    (fun t h₁ h₂ => absurd h₂ (by omega)) (fun m h₁ h₂ => by rw [show m = 1 by omega]; decide)
    (by decide) (by decide) (fun t h₁ h₂ => by rw [show t = 1 by omega]; decide) (by decide)

end Local

end Tos.LogCheck
