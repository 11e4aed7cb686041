import Tos.Unicode
/-!
# `re.sub` と `re.search` の一部

`fix_block_tests.py` の正規表現は、文字そのもの（`\[` や `\.` のような escape を含む）と、捕まえる
`(\w+)` 一つだけからできている。その形の正規表現を `Atom` の列として書き、Python の `re.sub` と
`re.search` をその上で書く。

* `matchAt`：先頭からの一致。`(\w+)` は単語の文字（`Tos.Unicode` の `isWordChar`）を取れるだけ取る。この script では `(\w+)` の次は
  いつも `"` で、`"` は単語の文字でないので、Python の後戻りが別の一致を見つけることはない。
* `reSub`：左から順に、重ならない一致を置き換える。一致の後は、その終わりから探し直す。
  走査は `subFrom` で、一致の残りを読み飛ばす数 `k` を持つので、文字列についての構造的な再帰である。
* `search`：どこかに一致があるか（`re.search(...) is not None`）。

## 性質

1. 改行に一致しない正規表現の置き換えは、行ごとに行える（`reSub_append_newline`）。元の文字列にも
   置き換えにもない文字は、置き換えの後にもない（`not_mem_reSub`）。
2. 一致のない文字列は変わらない（`reSub_eq_self`）。
3. 置き換えの後に、同じ、あるいは別の正規表現 `q` の一致が残らない条件（`search_reSub`）。証明は
   三段である。
   1. `q` を途中まで読んだ状態を `State` とし、一文字読むごとの移り `State.deriv` で一致を一文字ずつ
      読み進める（`State.occursAt_cons`）。途中の状態は `partials q` に閉じている
      （`State.deriv_mem_partials`）。
   2. 置き換えた文字列の中で途中の状態がどれも途切れるなら（`Disjoint`）、置き換えの後の文字列で
      途中の状態から一致が完成するのは、元の文字列でそうなるときに限る（`State.occursAt_subFrom`）。
   3. 置き換えた文字列の中からは `q` の一致が始まらないので、置き換えの後の一致は、置き換えられ
      なかった位置から始まり、2. により元の文字列の一致になる。
-/

namespace Tos.ApiTests

/-! ## 正規表現と一致 -/

/-- 正規表現の一項：文字そのものか、捕まえる `(\w+)`。 -/
inductive Atom where
  | lit (c : Char)
  | word
  deriving DecidableEq, Repr

/-- 文字列そのものに一致する項の列。 -/
def lits (s : List Char) : List Atom := s.map .lit

/-- 先頭からの一致。捕まえた `(\w+)` の文字列と、一致の後ろの残りを返す。 -/
def matchAt : List Atom → List Char → Option (List Char × List Char)
  | [], u => some ([], u)
  | .lit c :: ps, d :: u => if c = d then matchAt ps u else none
  | .lit _ :: _, [] => none
  | .word :: ps, u =>
    if (u.takeWhile isWordChar).isEmpty then none
    else (matchAt ps (u.dropWhile isWordChar)).map fun r => (u.takeWhile isWordChar, r.2)

/-- 先頭に一致がある。 -/
def occursAt (q : List Atom) (u : List Char) : Bool := (matchAt q u).isSome

/-- `re.search(q, u) is not None`。 -/
def search (q : List Atom) : List Char → Bool
  | [] => occursAt q []
  | c :: u => occursAt q (c :: u) || search q u

/-- `re.sub` の走査。`k` は、直前の一致のうちまだ読み飛ばす文字の数。 -/
def subFrom (ps : List Atom) (repl : List Char → List Char) : Nat → List Char → List Char
  | _, [] => []
  | k + 1, _ :: u => subFrom ps repl k u
  | 0, c :: u =>
    match matchAt ps (c :: u) with
    | some (w, rest) => repl w ++ subFrom ps repl (u.length - rest.length) u
    | none => c :: subFrom ps repl 0 u

/-- `re.sub(ps, repl, s)`。`repl` は捕まえた `\1` から置き換える文字列を作る。 -/
def reSub (ps : List Atom) (repl : List Char → List Char) (s : List Char) : List Char :=
  subFrom ps repl 0 s

theorem matchAt_nil {ps : List Atom} (hps : ps ≠ []) : matchAt ps [] = none := by
  match ps, hps with
  | .lit _ :: _, _ => rfl
  | .word :: _, _ => rfl

theorem occursAt_eq_false {q : List Atom} {u : List Char} : occursAt q u = false ↔ matchAt q u = none := by
  unfold occursAt
  cases matchAt q u <;> simp

/-- 捕まえた文字列は単語の文字だけからなる。 -/
theorem matchAt_capture {ps : List Atom} {u w r : List Char} (h : matchAt ps u = some (w, r)) :
    w.all isWordChar = true := by
  induction ps generalizing u with
  | nil => cases h; rfl
  | cons a ps ih =>
    cases a with
    | lit c =>
      cases u with
      | nil => cases h
      | cons d u =>
        simp only [matchAt] at h
        split at h
        · exact ih h
        · cases h
    | word =>
      simp only [matchAt] at h
      split at h
      · cases h
      · obtain ⟨_, _, h⟩ := Option.map_eq_some'.mp h
        cases h
        exact List.all_takeWhile

@[simp] theorem subFrom_nil (ps : List Atom) (repl : List Char → List Char) (k : Nat) :
    subFrom ps repl k [] = [] := by
  cases k <;> rfl

theorem subFrom_zero_cons_of_none {ps : List Atom} {repl : List Char → List Char} {c : Char}
    {u : List Char} (h : matchAt ps (c :: u) = none) :
    subFrom ps repl 0 (c :: u) = c :: subFrom ps repl 0 u := by
  simp only [subFrom, h]

theorem subFrom_zero_cons_of_some {ps : List Atom} {repl : List Char → List Char} {c : Char}
    {u w rest : List Char} (h : matchAt ps (c :: u) = some (w, rest)) :
    subFrom ps repl 0 (c :: u) = repl w ++ subFrom ps repl (u.length - rest.length) u := by
  simp only [subFrom, h]

theorem search_drop {q : List Atom} : ∀ {s : List Char}, search q s = false → ∀ k, search q (s.drop k) = false
  | [], h, _ => by rw [List.drop_nil]; exact h
  | _ :: _, h, 0 => h
  | _ :: _, h, k + 1 => search_drop (Bool.or_eq_false_iff.mp h).2 k

/-! ## 行ごとの置き換え -/

theorem takeWhile_append_newline (x y : List Char) :
    (x ++ '\n' :: y).takeWhile isWordChar = x.takeWhile isWordChar := by
  induction x with
  | nil => rfl
  | cons c x ih => simp only [List.cons_append, List.takeWhile_cons, ih]

theorem dropWhile_append_newline (x y : List Char) :
    (x ++ '\n' :: y).dropWhile isWordChar = x.dropWhile isWordChar ++ '\n' :: y := by
  induction x with
  | nil => rfl
  | cons c x ih =>
    simp only [List.cons_append, List.dropWhile_cons, ih]
    split <;> rfl

/-- 改行に一致しない正規表現の一致は、改行の手前で決まる。 -/
theorem matchAt_append_newline {ps : List Atom} (hnl : .lit '\n' ∉ ps) (x y : List Char) :
    matchAt ps (x ++ '\n' :: y) = (matchAt ps x).map fun r => (r.1, r.2 ++ '\n' :: y) := by
  induction ps generalizing x with
  | nil => rfl
  | cons a ps ih =>
    have ih := ih (fun h => hnl (.tail _ h))
    cases a with
    | lit c =>
      have hc : c ≠ '\n' := fun h => hnl (h ▸ .head _)
      cases x with
      | nil => simp [matchAt, hc]
      | cons d x =>
        simp only [List.cons_append, matchAt]
        split <;> simp [ih]
    | word =>
      simp only [matchAt, takeWhile_append_newline, dropWhile_append_newline, ih]
      split <;> simp [Option.map_map, Function.comp_def]

theorem subFrom_append_newline {ps : List Atom} (repl : List Char → List Char) (hps : ps ≠ [])
    (hnl : .lit '\n' ∉ ps) (y : List Char) : ∀ (x : List Char) (k : Nat), k ≤ x.length →
      subFrom ps repl k (x ++ '\n' :: y) = subFrom ps repl k x ++ '\n' :: subFrom ps repl 0 y
  | [], 0, _ => by
    have h := matchAt_append_newline hnl [] y
    rw [matchAt_nil hps] at h
    rw [List.nil_append, subFrom_zero_cons_of_none h]
    rfl
  | [], _ + 1, hk => absurd hk (by simp)
  | _ :: x, k + 1, hk => subFrom_append_newline repl hps hnl y x k (by simpa using hk)
  | c :: x, 0, _ => by
    have hm := matchAt_append_newline hnl (c :: x) y
    rw [List.cons_append] at hm
    cases h : matchAt ps (c :: x) with
    | none =>
      rw [h] at hm
      rw [List.cons_append, subFrom_zero_cons_of_none hm, subFrom_zero_cons_of_none h,
        subFrom_append_newline repl hps hnl y x 0 (Nat.zero_le _)]
      rfl
    | some r =>
      obtain ⟨w, rest⟩ := r
      rw [h] at hm
      have hk : (x ++ '\n' :: y).length - (rest ++ '\n' :: y).length = x.length - rest.length := by
        simp only [List.length_append, List.length_cons]
        omega
      rw [List.cons_append, subFrom_zero_cons_of_some hm, subFrom_zero_cons_of_some h, hk,
        subFrom_append_newline repl hps hnl y x _ (Nat.sub_le _ _), List.append_assoc]

/-- **改行に一致しない正規表現の置き換えは、行ごとに行える。** -/
theorem reSub_append_newline {ps : List Atom} (repl : List Char → List Char) (hps : ps ≠ [])
    (hnl : .lit '\n' ∉ ps) (x y : List Char) :
    reSub ps repl (x ++ '\n' :: y) = reSub ps repl x ++ '\n' :: reSub ps repl y :=
  subFrom_append_newline repl hps hnl y x 0 (Nat.zero_le _)

theorem mem_subFrom {ps : List Atom} {repl : List Char → List Char} {a : Char} :
    ∀ {k : Nat} {s : List Char}, a ∈ subFrom ps repl k s →
      a ∈ s ∨ ∃ w, w.all isWordChar = true ∧ a ∈ repl w
  | _, [], h => absurd h (by simp)
  | k + 1, c :: u, h => (mem_subFrom (k := k) (s := u) h).imp_left (.tail c)
  | 0, c :: u, h => by
    cases hm : matchAt ps (c :: u) with
    | none =>
      rw [subFrom_zero_cons_of_none hm] at h
      rcases List.mem_cons.mp h with rfl | h
      · exact .inl (.head _)
      · exact (mem_subFrom h).imp_left (.tail c)
    | some r =>
      obtain ⟨w, rest⟩ := r
      rw [subFrom_zero_cons_of_some hm] at h
      rcases List.mem_append.mp h with h | h
      · exact .inr ⟨w, matchAt_capture hm, h⟩
      · exact (mem_subFrom h).imp_left (.tail c)

/-- 元の文字列にも、捕まえた単語から作る置き換えにもない文字は、置き換えの後にもない。 -/
theorem not_mem_reSub {ps : List Atom} {repl : List Char → List Char} {a : Char} {s : List Char}
    (hs : a ∉ s) (hr : ∀ w, w.all isWordChar = true → a ∉ repl w) : a ∉ reSub ps repl s :=
  fun h => (mem_subFrom h).elim hs fun ⟨w, hw, h⟩ => hr w hw h

/-! ## 一致のない文字列 -/

/-- **一致のない文字列は変わらない。** -/
theorem reSub_eq_self {ps : List Atom} (repl : List Char → List Char) :
    ∀ {s : List Char}, search ps s = false → reSub ps repl s = s
  | [], _ => rfl
  | c :: u, h => by
    rw [search, Bool.or_eq_false_iff] at h
    rw [reSub, subFrom_zero_cons_of_none (occursAt_eq_false.mp h.1), ← reSub,
      reSub_eq_self repl h.2]

theorem prefix_of_occursAt_lits {rest : List Atom} :
    ∀ {p t : List Char}, occursAt (lits p ++ rest) t = true → p <+: t
  | [], _, _ => List.nil_prefix
  | _ :: _, [], h => by cases h
  | a :: p, d :: t, h => by
    simp only [lits, List.map_cons, List.cons_append, occursAt, matchAt] at h
    split at h
    · next had =>
      subst had
      exact (List.prefix_cons_inj a).mpr (prefix_of_occursAt_lits h)
    · cases h

/-- 文字列そのもので始まる正規表現の一致があれば、その文字列が現れる。 -/
theorem infix_of_search_lits {p : List Char} {rest : List Atom} :
    ∀ {s : List Char}, search (lits p ++ rest) s = true → p <:+: s
  | [], h => (prefix_of_occursAt_lits h).isInfix
  | c :: u, h => by
    rcases Bool.or_eq_true_iff.mp h with h | h
    · exact (prefix_of_occursAt_lits h).isInfix
    · exact (infix_of_search_lits h).trans (List.suffix_cons c u).isInfix

/-! ## 一致の途中の状態 -/

/-- `q` を途中まで読んだ状態：残りの正規表現 `pat` と、`(\w+)` を一文字以上読んだところかどうか。 -/
structure State where
  pat : List Atom
  inWord : Bool
  deriving DecidableEq, Repr

/-- 状態 `σ` から、`u` の先頭で一致が完成する。 -/
def State.occursAt (σ : State) (u : List Char) : Bool :=
  Tos.ApiTests.occursAt σ.pat (if σ.inWord then u.dropWhile isWordChar else u)

/-- 正規表現 `ps` の先頭の項で一文字読んだ後の状態。`none` なら一致はそこで途切れる。 -/
def derivPat : List Atom → Char → Option State
  | [], _ => none
  | .lit a :: ps, c => if a = c then some ⟨ps, false⟩ else none
  | .word :: ps, c => if isWordChar c then some ⟨ps, true⟩ else none

/-- 一文字読んだ後の状態。`(\w+)` の途中なら、単語の文字はそのまま読み続ける。 -/
def State.deriv (σ : State) (c : Char) : Option State :=
  if σ.inWord && isWordChar c then some σ else derivPat σ.pat c

/-- `q` の先頭を一文字以上読んだ後に現れうる状態。 -/
def partials : List Atom → List State
  | [] => []
  | .lit _ :: ps => ⟨ps, false⟩ :: partials ps
  | .word :: ps => ⟨ps, true⟩ :: partials ps

theorem occursAt_cons_iff {ps : List Atom} (hps : ps ≠ []) (c : Char) (u : List Char) :
    occursAt ps (c :: u) = true ↔ ∃ σ, derivPat ps c = some σ ∧ σ.occursAt u = true := by
  match ps, hps with
  | .lit a :: ps, _ => by_cases h : a = c <;> simp [occursAt, matchAt, derivPat, State.occursAt, h]
  | .word :: ps, _ =>
    cases hc : isWordChar c <;>
      simp [occursAt, matchAt, derivPat, State.occursAt, hc, List.takeWhile_cons,
        List.dropWhile_cons]

theorem State.occursAt_of_pat_nil {σ : State} (h : σ.pat = []) (u : List Char) :
    σ.occursAt u = true := by
  rw [State.occursAt, h]
  rfl

/-- 途中の状態から一致を一文字読み進める。 -/
theorem State.occursAt_cons {σ : State} (hσ : σ.pat ≠ []) (c : Char) (u : List Char) :
    σ.occursAt (c :: u) = true ↔ ∃ σ', σ.deriv c = some σ' ∧ σ'.occursAt u = true := by
  obtain ⟨ps, b⟩ := σ
  cases b <;> cases hc : isWordChar c <;>
    simp [State.occursAt, State.deriv, hc, List.dropWhile_cons, occursAt_cons_iff hσ]

theorem derivPat_mem_partials {q : List Atom} {c : Char} {σ : State} (h : derivPat q c = some σ) :
    σ ∈ partials q := by
  match q, h with
  | .lit _ :: _, h | .word :: _, h =>
    simp only [derivPat] at h
    split at h <;> cases h
    exact .head _

theorem partials_pat_subset {q : List Atom} {σ : State} (h : σ ∈ partials q) :
    partials σ.pat ⊆ partials q := by
  induction q with
  | nil => cases h
  | cons a ps ih =>
    have hsub : partials ps ⊆ partials (a :: ps) := by
      cases a <;> exact List.subset_cons_of_subset _ (List.Subset.refl _)
    cases a <;> rcases List.mem_cons.mp h with rfl | h
    all_goals first | exact hsub | exact (ih h).trans hsub

theorem State.deriv_eq_some {σ σ' : State} {c : Char} (h : σ.deriv c = some σ') :
    σ' = σ ∨ derivPat σ.pat c = some σ' := by
  unfold State.deriv at h
  split at h
  · exact .inl (Option.some.inj h).symm
  · exact .inr h

/-- 途中の状態は、一文字読んでも途中の状態である。 -/
theorem State.deriv_mem_partials {q : List Atom} {σ σ' : State} {c : Char} (hσ : σ ∈ partials q)
    (h : σ.deriv c = some σ') : σ' ∈ partials q := by
  rcases State.deriv_eq_some h with rfl | h
  · exact hσ
  · exact partials_pat_subset hσ (derivPat_mem_partials h)

/-! ## 途切れる一致 -/

/-- 状態 `σ` からの一致が、`r` を読み終える前に途切れる（`r` の後ろに何が続いても）。 -/
def State.diesOn (σ : State) : List Char → Bool
  | [] => false
  | c :: r => !σ.pat.isEmpty && (σ.deriv c).all fun σ' => σ'.diesOn r

/-- `r` のどの位置から読み始めても、`q` の一致は `r` を読み終える前に途切れる。 -/
def diesAll (q : List Atom) : List Char → Bool
  | [] => true
  | c :: r => State.diesOn ⟨q, false⟩ (c :: r) && diesAll q r

theorem State.occursAt_of_diesOn {r : List Char} :
    ∀ {σ : State}, σ.diesOn r = true → ∀ X, σ.occursAt (r ++ X) = false := by
  induction r with
  | nil => intro σ h; cases h
  | cons c r ih =>
    intro σ h X
    simp only [State.diesOn, Bool.and_eq_true, Bool.not_eq_true', List.isEmpty_eq_false] at h
    rw [List.cons_append, Bool.eq_false_iff]
    intro ho
    obtain ⟨σ', hd, ho⟩ := (State.occursAt_cons h.1 c _).mp ho
    rw [hd] at h
    exact absurd ((ih h.2 X).symm.trans ho) Bool.false_ne_true

theorem State.diesOn_append {r : List Char} (r' : List Char) :
    ∀ {σ : State}, σ.diesOn r = true → σ.diesOn (r ++ r') = true := by
  induction r with
  | nil => intro σ h; cases h
  | cons c r ih =>
    intro σ h
    simp only [List.cons_append, State.diesOn, Bool.and_eq_true] at h ⊢
    refine ⟨h.1, ?_⟩
    cases hd : σ.deriv c with
    | none => rfl
    | some σ' =>
      rw [hd] at h
      exact ih h.2

theorem diesAll_append {q : List Atom} {a b : List Char} (ha : diesAll q a = true)
    (hb : diesAll q b = true) : diesAll q (a ++ b) = true := by
  induction a with
  | nil => exact hb
  | cons c a ih =>
    simp only [diesAll, Bool.and_eq_true] at ha
    exact Bool.and_eq_true_iff.mpr ⟨State.diesOn_append b ha.1, ih ha.2⟩

/-- `r` のどの位置からも一致が始まらなければ、`r ++ X` の一致は `X` の一致である。 -/
theorem search_append_of_diesAll {q : List Atom} {r : List Char} (h : diesAll q r = true)
    (X : List Char) : search q (r ++ X) = search q X := by
  induction r with
  | nil => rfl
  | cons c r ih =>
    simp only [diesAll, Bool.and_eq_true] at h
    have h0 : occursAt q (c :: r ++ X) = false := State.occursAt_of_diesOn h.1 X
    rw [List.cons_append, search, ← List.cons_append, h0, ih h.2, Bool.false_or]

/-! ## 置き換えの後に残る一致 -/

/-- 置き換えた文字列（捕まえた単語のどれについても）の中からは `q` の一致が始まらず、`q` の途中の
状態も、置き換えた文字列の中で途切れる。 -/
structure Disjoint (q : List Atom) (repl : List Char → List Char) : Prop where
  start : ∀ w, w.all isWordChar = true → diesAll q (repl w) = true
  cont : ∀ w, w.all isWordChar = true → ∀ σ ∈ partials q, σ.pat ≠ [] → σ.diesOn (repl w) = true

/-- 定まった文字列 `r` への置き換えについて、`Disjoint` を確かめる計算。 -/
def disjointLit (q : List Atom) (r : List Char) : Bool :=
  diesAll q r && (partials q).all fun σ => σ.pat.isEmpty || σ.diesOn r

theorem Disjoint.of_lit {q : List Atom} {r : List Char} (h : disjointLit q r = true) :
    Disjoint q fun _ => r := by
  simp only [disjointLit, Bool.and_eq_true, List.all_eq_true, Bool.or_eq_true,
    List.isEmpty_iff] at h
  exact ⟨fun _ _ => h.1, fun _ _ σ hσ hne => (h.2 σ hσ).resolve_left hne⟩

section Pass

variable {ps q : List Atom} {repl : List Char → List Char}

/-- 置き換えの後に途中の状態から一致が完成するなら、置き換えの前にもそうである。 -/
theorem State.occursAt_subFrom (hd : Disjoint q repl) :
    ∀ (s : List Char) (k : Nat) {σ : State}, σ ∈ partials q →
      σ.occursAt (subFrom ps repl k s) = true → σ.occursAt (s.drop k) = true
  | [], k, _, _, h => by simpa using h
  | _ :: u, k + 1, _, hσ, h => State.occursAt_subFrom hd u k hσ h
  | c :: u, 0, σ, hσ, h => by
    by_cases hp : σ.pat = []
    · exact σ.occursAt_of_pat_nil hp _
    cases hm : matchAt ps (c :: u) with
    | some r =>
      obtain ⟨w, rest⟩ := r
      rw [subFrom_zero_cons_of_some hm,
        State.occursAt_of_diesOn (hd.cont w (matchAt_capture hm) σ hσ hp)] at h
      cases h
    | none =>
      rw [subFrom_zero_cons_of_none hm] at h
      obtain ⟨σ', hd', h'⟩ := (State.occursAt_cons hp c _).mp h
      exact (State.occursAt_cons hp c u).mpr
        ⟨σ', hd', State.occursAt_subFrom hd u 0 (State.deriv_mem_partials hσ hd') h'⟩

theorem search_subFrom (hq : q ≠ []) (hd : Disjoint q repl) :
    ∀ (s : List Char) (k : Nat), (q = ps ∨ search q (s.drop k) = false) →
      search q (subFrom ps repl k s) = false
  | [], _, _ => by rw [subFrom_nil, search, occursAt_eq_false, matchAt_nil hq]
  | _ :: u, k + 1, hs => search_subFrom hq hd u k hs
  | c :: u, 0, hs => by
    have hu : q = ps ∨ search q u = false :=
      hs.imp_right fun h => (Bool.or_eq_false_iff.mp h).2
    cases hm : matchAt ps (c :: u) with
    | some r =>
      obtain ⟨w, rest⟩ := r
      rw [subFrom_zero_cons_of_some hm, search_append_of_diesAll (hd.start w (matchAt_capture hm))]
      exact search_subFrom hq hd u _ (hu.imp_right fun h => search_drop h _)
    | none =>
      rw [subFrom_zero_cons_of_none hm, search, search_subFrom hq hd u 0 hu, Bool.or_false,
        Bool.eq_false_iff]
      intro ho
      obtain ⟨σ, hσd, hσ⟩ := (occursAt_cons_iff hq c _).mp ho
      have h0 := (occursAt_cons_iff hq c u).mpr
        ⟨σ, hσd, State.occursAt_subFrom hd u 0 (derivPat_mem_partials hσd) hσ⟩
      rcases hs with rfl | hs
      · rw [occursAt, hm] at h0
        cases h0
      · rw [List.drop_zero, search, h0] at hs
        cases hs

/--
**置き換えの後に `q` の一致は残らない。** 置き換えた文字列が `q` と重ならない（`Disjoint`）とき、
`q` が置き換える正規表現そのものであるか、元の文字列に `q` の一致がなければ、置き換えの後の
文字列にも `q` の一致はない。
-/
theorem search_reSub (hq : q ≠ []) (hd : Disjoint q repl) (s : List Char)
    (hs : q = ps ∨ search q s = false) : search q (reSub ps repl s) = false :=
  search_subFrom hq hd s 0 hs

end Pass

end Tos.ApiTests
