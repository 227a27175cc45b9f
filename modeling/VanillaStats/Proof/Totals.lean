import VanillaStats.Proof.Tile
import Mathlib.Algebra.Order.BigOperators.Group.List
import Mathlib.Algebra.Order.Group.Int

/-!
# The derived totals

`__generate_tile_stats` adds `instr_total`, `stall_total` and `miss_total` into
every tile's and every tile group's table, each as the sum of its category's
columns, and `__generate_manycore_stats_all` then adds every column of `all_ops`,
the three totals included, over the tiles. `parse_header` leaves an `instr_total`
column out of the instruction list but keeps a `stall_total` or `miss_total`
column in its own list, where the totals loop then adds it into itself.

* `Schema.generateTotals_sums`: on a table that holds no total, the totals loops
  make each total the sum of its category.
* `columnsIn_foldl`: the loop writes schema columns only.
* `count_generateManycoreStatsAll`: `manycore_stat[t][op]` is the grid sum of
  `tile_stat[t][·][·][op]`, once per listing of `op`.
* `header_columns_filed_by_prefix`: the list `parse_header` files each column
  under, and that `all_ops` lists the header less `instr_total`.
* `totals_are_category_sums`: for a header without repeated names and without a
  `stall_total` or `miss_total` column, the totals of every table are the sums of
  their categories.
* `stall_total_column_counted_twice`: a `stall_total` column is added into itself,
  against the category sum.
* `tables_nonneg_on_columns`: every table is non-negative, and reads `0` outside
  the schema columns and the totals.
-/

namespace VanillaStats

/-- The names the totals loops write. -/
def totalNames : List String := ["instr_total", "stall_total", "miss_total"]

/-- The header's names of one category: those starting with `pre`, other than
`total`. -/
def categoryNames (header : List String) (pre total : String) : List String :=
  header.filter fun n => startswith n pre && n ≠ total

/-- The three totals of `X` are the sums of the categories `I`, `S` and `M`. -/
def TotalsAreSums (I S M : List String) (X : Counter) : Prop :=
  X.count "instr_total" = (I.map X.count).sum ∧ X.count "stall_total" = (S.map X.count).sum ∧
    X.count "miss_total" = (M.map X.count).sum

/-- `TotalsAreSums` for the categories of a header. -/
def HeaderTotals (header : List String) : Counter → Prop :=
  TotalsAreSums (categoryNames header "instr_" "instr_total")
    (categoryNames header "stall_" "stall_total") (categoryNames header "miss_" "miss_total")

theorem not_mem_totalNames {n : String} :
    n ∉ totalNames ↔ n ≠ "instr_total" ∧ n ≠ "stall_total" ∧ n ≠ "miss_total" := by
  simp [totalNames]

theorem startswith_cons (a : Char) (l : List Char) {p : String} {b : Char} {q : List Char}
    (hp : p.data = b :: q) : startswith ⟨a :: l⟩ p = (b == a && q.isPrefixOf l) := by
  simp only [startswith, hp, List.isPrefixOf]

/-- A name starts with at most one of `instr_`, `miss_` and `stall_`. -/
theorem startswith_exclusive (n : String) :
    (startswith n "stall_" = true → startswith n "instr_" = false ∧ startswith n "miss_" = false) ∧
      (startswith n "miss_" = true → startswith n "instr_" = false) := by
  obtain ⟨_ | ⟨a, l⟩⟩ := n
  · decide
  · rw [startswith_cons a l (p := "stall_") rfl, startswith_cons a l (p := "instr_") rfl,
      startswith_cons a l (p := "miss_") rfl, Bool.and_eq_true, Bool.and_eq_true, beq_iff_eq,
      beq_iff_eq]
    exact ⟨fun ⟨h, _⟩ => h ▸ ⟨rfl, rfl⟩, fun ⟨h, _⟩ => h ▸ rfl⟩

/-- **The totals loops sum the categories.** On a table that reads `0` at the three
total names, and for category lists that hold none of them, each total ends as
the sum of its category at the end. -/
theorem Schema.generateTotals_sums (σ : Schema) (c : Counter)
    (hσ : ∀ n ∈ σ.instrs ++ σ.stalls ++ σ.misses, n ∉ totalNames)
    (hc : ∀ n ∈ totalNames, c.count n = 0) :
    TotalsAreSums σ.instrs σ.stalls σ.misses (σ.generateTotals c) := by
  have hI : "instr_total" ∉ σ.instrs := fun hm => hσ "instr_total" (by simp [hm]) (by simp [totalNames])
  have hS : "stall_total" ∉ σ.stalls := fun hm => hσ "stall_total" (by simp [hm]) (by simp [totalNames])
  have hM : "miss_total" ∉ σ.misses := fun hm => hσ "miss_total" (by simp [hm]) (by simp [totalNames])
  have sum_eq : ∀ (L : List String) (c' : Counter), (∀ n ∈ L, n ∈ σ.instrs ++ σ.stalls ++ σ.misses) →
      (∀ n, n ∉ totalNames → c'.count n = c.count n) →
      (L.map c'.count).sum = (L.map (σ.generateTotals c).count).sum := fun L c' hL h' => by
    refine congrArg List.sum (List.map_congr_left fun n hn => ?_)
    have hn' := not_mem_totalNames.1 (hσ n (hL n hn))
    rw [h' n (hσ n (hL n hn)), Schema.count_generateTotals_of_ne _ _ hn'.1 hn'.2.1 hn'.2.2]
  refine ⟨?_, ?_, ?_⟩ <;> simp only [generateTotals]
  · rw [Counter.count_addTotal_of_ne _ _ (by decide), Counter.count_addTotal_of_ne _ _ (by decide),
      Counter.count_addTotal_self _ hI, hc "instr_total" (by simp [totalNames]), zero_add]
    exact sum_eq _ _ (by simp +contextual) fun n _ => rfl
  · rw [Counter.count_addTotal_of_ne _ _ (by decide), Counter.count_addTotal_self _ hS,
      Counter.count_addTotal_of_ne _ _ (by decide), hc "stall_total" (by simp [totalNames]), zero_add]
    exact sum_eq _ _ (by simp +contextual)
      fun n hn => Counter.count_addTotal_of_ne _ _ (not_mem_totalNames.1 hn).1
  · rw [Counter.count_addTotal_self _ hM, Counter.count_addTotal_of_ne _ _ (by decide),
      Counter.count_addTotal_of_ne _ _ (by decide), hc "miss_total" (by simp [totalNames]), zero_add]
    refine sum_eq _ _ (by simp +contextual) fun n hn => ?_
    obtain ⟨h1, h2, -⟩ := not_mem_totalNames.1 hn
    rw [Counter.count_addTotal_of_ne _ _ h2, Counter.count_addTotal_of_ne _ _ h1]

/-- Every table of the loop reads `0` at every name outside `ops`. -/
structure ColumnsIn (ops : List String) (st : TileStatsState) : Prop where
  tileStart : ∀ k n, n ∉ ops → (st.tileStatStart k).count n = 0
  tileEnd : ∀ k n, n ∉ ops → (st.tileStatEnd k).count n = 0
  groupStart : ∀ g n, n ∉ ops → (st.tileGroupStatStart g).count n = 0
  groupEnd : ∀ g n, n ∉ ops → (st.tileGroupStatEnd g).count n = 0

namespace Config

variable (cfg : Config)

theorem columnsIn_apply {st : TileStatsState} (h : ColumnsIn cfg.schema.allOps st) (r : Record) :
    ColumnsIn cfg.schema.allOps (cfg.apply st r) := by
  have hset : ∀ (c : Counter) (trace : Row) n, n ∉ cfg.schema.allOps → c.count n = 0 →
      (c.setEach cfg.schema.allOps trace).count n = 0 := fun c trace n hn hc => by
    rw [Counter.count_setEach, if_neg hn, hc]
  have hadd : ∀ (c : Counter) (trace : Row) n, n ∉ cfg.schema.allOps → c.count n = 0 →
      (c.addEach cfg.schema.allOps trace).count n = 0 := fun c trace n hn hc => by
    rw [Counter.count_addEach, List.count_eq_zero_of_not_mem hn, hc]; simp
  cases r with
  | stat => exact h
  | startAt k g trace =>
    refine ⟨fun k' n hn => ?_, h.tileEnd, fun g' n hn => ?_, h.groupEnd⟩ <;>
      simp only [apply, Function.update_apply] <;> split_ifs with he
    · exact hset _ _ _ hn (he ▸ h.tileStart k n hn)
    · exact h.tileStart k' n hn
    · exact hadd _ _ _ hn (he ▸ h.groupStart g n hn)
    · exact h.groupStart g' n hn
  | endAt k g trace x y =>
    refine ⟨h.tileStart, fun k' n hn => ?_, h.groupStart, fun g' n hn => ?_⟩ <;>
      simp only [apply, Function.update_apply] <;> split_ifs with he
    · exact hset _ _ _ hn (he ▸ h.tileEnd k n hn)
    · exact h.tileEnd k' n hn
    · exact hadd _ _ _ hn (he ▸ h.groupEnd g n hn)
    · exact h.groupEnd g' n hn

/-- **The loop writes schema columns only.** -/
theorem columnsIn_foldl (L : List Record) :
    ColumnsIn cfg.schema.allOps (L.foldl cfg.apply .init) := by
  suffices ∀ st, ColumnsIn cfg.schema.allOps st → ColumnsIn cfg.schema.allOps (L.foldl cfg.apply st) from
    this _ ⟨fun _ _ _ => rfl, fun _ _ _ => rfl, fun _ _ _ => rfl, fun _ _ _ => rfl⟩
  induction L with
  | nil => exact fun _ h => h
  | cons r L ih => exact fun st h => ih _ (cfg.columnsIn_apply h r)

end Config

/-- The sum of `f y x` over the `dim_y × dim_x` grid, rows outside. -/
def gridSum (dimY dimX : ℕ) (f : ℕ → ℕ → ℤ) : ℤ :=
  ((List.range dimY).map fun y => ((List.range dimX).map fun x => f y x).sum).sum

theorem gridSum_add (dimY dimX : ℕ) (f g : ℕ → ℕ → ℤ) :
    gridSum dimY dimX (fun y x => f y x + g y x) = gridSum dimY dimX f + gridSum dimY dimX g := by
  simp only [gridSum, List.sum_map_add]

theorem gridSum_list_sum {ι : Type} (dimY dimX : ℕ) (L : List ι) (f : ι → ℕ → ℕ → ℤ) :
    gridSum dimY dimX (fun y x => (L.map fun n => f n y x).sum) =
      (L.map fun n => gridSum dimY dimX (f n)).sum := by
  induction L with
  | nil => simp [gridSum]
  | cons n L ih => simp only [List.map_cons, List.sum_cons]; rw [gridSum_add, ih]

/-- A grid sum reads its summand inside the grid only. -/
theorem gridSum_congr {dimY dimX : ℕ} {f g : ℕ → ℕ → ℤ}
    (h : ∀ y < dimY, ∀ x < dimX, f y x = g y x) : gridSum dimY dimX f = gridSum dimY dimX g := by
  refine congrArg List.sum (List.map_congr_left fun y hy => ?_)
  exact congrArg List.sum (List.map_congr_left fun x hx =>
    h y (List.mem_range.1 hy) x (List.mem_range.1 hx))

theorem gridSum_zero (dimY dimX : ℕ) : gridSum dimY dimX (fun _ _ => 0) = 0 := by
  simp [gridSum]

theorem gridSum_sub (dimY dimX : ℕ) (f g : ℕ → ℕ → ℤ) :
    gridSum dimY dimX (fun y x => f y x - g y x) = gridSum dimY dimX f - gridSum dimY dimX g := by
  have h : gridSum dimY dimX f =
      gridSum dimY dimX (fun y x => f y x - g y x) + gridSum dimY dimX g := by
    rw [← gridSum_add]; simp only [sub_add_cancel]
  omega

theorem gridSum_nonneg {dimY dimX : ℕ} {f : ℕ → ℕ → ℤ} (hf : ∀ y x, 0 ≤ f y x) :
    0 ≤ gridSum dimY dimX f :=
  List.sum_nonneg fun _ hy => by
    obtain ⟨y, -, rfl⟩ := List.mem_map.1 hy
    exact List.sum_nonneg fun _ hx => by
      obtain ⟨x, -, rfl⟩ := List.mem_map.1 hx
      exact hf y x

theorem count_foldl_addEach (ops : List String) (xs : List ℕ) (f : ℕ → Counter) (c : Counter)
    (op : String) :
    (xs.foldl (fun c x => c.addEach ops (f x).count) c).count op =
      c.count op + ops.count op * (xs.map fun x => (f x).count op).sum := by
  induction xs generalizing c with
  | nil => simp
  | cons x xs ih => rw [List.foldl_cons, ih, Counter.count_addEach]; simp [mul_add, add_assoc]

/-- **The grid stat is the grid sum of the tiles**, once per listing of the
column in `all_ops`. -/
theorem count_generateManycoreStatsAll (dimY dimX : ℕ) (ops : List String)
    (tileStat : TileKey → Counter) (tag : ℕ) (op : String) :
    (generateManycoreStatsAll dimY dimX ops tileStat tag).count op =
      ops.count op * gridSum dimY dimX fun y x => (tileStat (tag, y, x)).count op := by
  suffices ∀ (ys : List ℕ) (c : Counter),
      (ys.foldl (fun c y => (List.range dimX).foldl
        (fun c x => c.addEach ops (tileStat (tag, y, x)).count) c) c).count op =
        c.count op + ops.count op *
          (ys.map fun y => ((List.range dimX).map fun x => (tileStat (tag, y, x)).count op).sum).sum by
    rw [generateManycoreStatsAll, this, Counter.count_empty, zero_add, gridSum]
  intro ys
  induction ys with
  | nil => simp
  | cons y ys ih =>
    intro c
    rw [List.foldl_cons, ih, count_foldl_addEach]
    simp [mul_add, add_assoc]

section Grid

variable {I S M : List String} {dimY dimX : ℕ} {ops : List String} {tileStat : TileKey → Counter}
  {tag : ℕ}

/-- Summing tables whose totals are category sums over the grid keeps the totals
category sums, when every name counted lists once. -/
theorem TotalsAreSums.manycore
    (hT : ∀ y x, TotalsAreSums I S M (tileStat (tag, y, x)))
    (hops : ∀ n ∈ I ++ S ++ M ++ totalNames, ops.count n = 1) :
    TotalsAreSums I S M (generateManycoreStatsAll dimY dimX ops tileStat tag) := by
  have key : ∀ (T : String) (L : List String), T ∈ totalNames → (∀ n ∈ L, n ∈ I ++ S ++ M) →
      (∀ y x, (tileStat (tag, y, x)).count T = (L.map (tileStat (tag, y, x)).count).sum) →
      (generateManycoreStatsAll dimY dimX ops tileStat tag).count T =
        (L.map (generateManycoreStatsAll dimY dimX ops tileStat tag).count).sum := by
    intro T L hT hL hsum
    have hfun : (fun y x => (tileStat (tag, y, x)).count T) =
        fun y x => (L.map fun n => (tileStat (tag, y, x)).count n).sum :=
      funext fun y => funext fun x => hsum y x
    rw [count_generateManycoreStatsAll, hops T (by simp [hT]), Nat.cast_one, one_mul, hfun,
      gridSum_list_sum]
    refine congrArg List.sum (List.map_congr_left fun n hn => ?_)
    rw [count_generateManycoreStatsAll, hops n (List.mem_append_left _ (hL n hn)), Nat.cast_one,
      one_mul]
  exact ⟨key _ I (by simp [totalNames]) (by simp +contextual) fun y x => (hT y x).1,
    key _ S (by simp [totalNames]) (by simp +contextual) fun y x => (hT y x).2.1,
    key _ M (by simp [totalNames]) (by simp +contextual) fun y x => (hT y x).2.2⟩

end Grid

section Header

variable {header : List String}

theorem mem_header_of_mem_allOps {n : String} (h : n ∈ (parseHeader header).allOps) : n ∈ header := by
  simp only [parseHeader_eq, Schema.allOps, List.mem_append, List.mem_filter] at h
  rcases h with ((h | h) | h) | h <;> exact h.1

theorem allOps_nodup (h : header.Nodup) : (parseHeader header).allOps.Nodup := by
  simp only [parseHeader_eq, Schema.allOps, List.nodup_append, List.disjoint_left, List.mem_append,
    List.mem_filter]
  refine ⟨⟨⟨h.filter _, h.filter _, ?_⟩, h.filter _, ?_⟩, h.filter _, ?_⟩ <;> intro n hn <;>
    simp only [Bool.and_eq_true, Bool.not_eq_true', Bool.eq_false_iff, ne_eq,
      decide_eq_true_eq] at hn ⊢ <;> tauto

theorem count_filter_ite (p : String → Bool) (l : List String) (a : String) :
    (l.filter p).count a = if p a then l.count a else 0 := by
  split_ifs with h
  · exact List.count_filter h
  · exact List.count_eq_zero_of_not_mem fun hm => h (List.mem_filter.1 hm).2

/-- `all_ops` lists each name as often as the header does, `instr_total` never. -/
theorem count_allOps (header : List String) (n : String) :
    (parseHeader header).allOps.count n = (header.filter (· ≠ "instr_total")).count n := by
  simp only [parseHeader_eq, Schema.allOps, List.count_append, count_filter_ite]
  by_cases ht : n = "instr_total"
  · subst ht
    have hi : startswith "instr_total" "instr_" = true := by decide
    simp [hi]
  · cases startswith n "instr_" <;> cases startswith n "miss_" <;> cases startswith n "stall_" <;>
      simp [ht]

theorem mem_allOps_iff {header : List String} {n : String} :
    n ∈ (parseHeader header).allOps ↔ n ∈ header ∧ n ≠ "instr_total" := by
  rw [← List.count_pos_iff, count_allOps, List.count_pos_iff, List.mem_filter,
    decide_eq_true_iff]

/-- **`parse_header` files every column by its first prefix, in exactly one
list.** In header order, a name goes to the instructions when it starts with
`instr_` and is not `instr_total`, else to the misses when it starts with `miss_`,
else to the stalls when it starts with `stall_`, and else to the stats; an
`instr_total` column goes nowhere. So `all_ops` holds the header's names, each as
often as the header lists it, except `instr_total`. -/
theorem header_columns_filed_by_prefix (header : List String) :
    parseHeader header =
      ⟨header.filter fun i => !startswith i "instr_" && !startswith i "miss_" && !startswith i "stall_",
       header.filter fun i => startswith i "instr_" && i ≠ "instr_total",
       header.filter fun i => !startswith i "instr_" && startswith i "miss_",
       header.filter fun i => !startswith i "instr_" && !startswith i "miss_" && startswith i "stall_"⟩ ∧
      (parseHeader header).allOps.Perm (header.filter (· ≠ "instr_total")) :=
  ⟨parseHeader_eq header, List.perm_iff_count.2 (count_allOps header)⟩

theorem parseHeader_categories (hs : "stall_total" ∉ header) (hm : "miss_total" ∉ header) :
    (parseHeader header).instrs = categoryNames header "instr_" "instr_total" ∧
      (parseHeader header).stalls = categoryNames header "stall_" "stall_total" ∧
      (parseHeader header).misses = categoryNames header "miss_" "miss_total" := by
  refine ⟨by rw [parseHeader_eq]; rfl, ?_, ?_⟩ <;> rw [parseHeader_eq] <;>
    refine List.filter_congr fun n hn => ?_ <;>
    have hex := startswith_exclusive n
  · have : n ≠ "stall_total" := fun e => hs (e ▸ hn)
    by_cases h : startswith n "stall_" <;> simp_all
  · have : n ≠ "miss_total" := fun e => hm (e ▸ hn)
    by_cases h : startswith n "miss_" <;> simp_all

theorem mem_allOps_of_category {σ : Schema} {n : String} (hn : n ∈ σ.instrs ++ σ.stalls ++ σ.misses) :
    n ∈ σ.allOps := by
  simp only [Schema.allOps, List.mem_append] at hn ⊢; tauto

theorem categories_not_total (hs : "stall_total" ∉ header) (hm : "miss_total" ∉ header) :
    ∀ n ∈ (parseHeader header).instrs ++ (parseHeader header).stalls ++ (parseHeader header).misses,
      n ∉ totalNames := by
  intro n hn
  have hops := mem_allOps_of_category hn
  have hi : n ≠ "instr_total" := fun e => instr_total_not_mem_allOps header (e ▸ hops)
  have hh := mem_header_of_mem_allOps hops
  exact not_mem_totalNames.2 ⟨hi, fun e => hs (e ▸ hh), fun e => hm (e ▸ hh)⟩

theorem totals_not_mem_allOps (hs : "stall_total" ∉ header) (hm : "miss_total" ∉ header) :
    ∀ n ∈ totalNames, n ∉ (parseHeader header).allOps := by
  intro n hn hmem
  simp only [totalNames, List.mem_cons, List.not_mem_nil, or_false] at hn
  rcases hn with rfl | rfl | rfl
  · exact instr_total_not_mem_allOps header hmem
  · exact hs (mem_header_of_mem_allOps hmem)
  · exact hm (mem_header_of_mem_allOps hmem)

/-- The grid's `all_ops` lists every category name and every total once. -/
theorem count_allOps_totals (hnd : header.Nodup) (hs : "stall_total" ∉ header)
    (hm : "miss_total" ∉ header) :
    ∀ n ∈ (parseHeader header).instrs ++ (parseHeader header).stalls ++ (parseHeader header).misses ++
      totalNames, ((parseHeader header).allOps ++ totalNames).count n = 1 := by
  intro n hn
  rw [List.count_append]
  rcases List.mem_append.1 hn with hn | hn
  · have hn' := not_mem_totalNames.1 (categories_not_total hs hm n hn)
    rw [List.count_eq_one_of_mem (allOps_nodup hnd) (mem_allOps_of_category hn)]
    simp [totalNames, hn'.1, hn'.2.1, hn'.2.2]
  · rw [List.count_eq_zero_of_not_mem (totals_not_mem_allOps hs hm n hn)]
    simp only [totalNames, List.mem_cons, List.not_mem_nil, or_false] at hn
    rcases hn with rfl | rfl | rfl <;> decide

end Header

/-- **The totals are the category sums.** For a header without repeated names and
without a `stall_total` or `miss_total` column, on every trace the constructor
reads and for every tag, every `tile_stat` table, every `tile_group_stat` table
and the `manycore_stat` table have `instr_total`, `stall_total` and `miss_total`
equal to the sums of the header's `instr_`, `stall_` and `miss_` columns, each
category leaving out its own total. -/
theorem totals_are_category_sums {dimY dimX : ℕ} {header : List String} {rows : List Row}
    {p : VanillaStatsParser} {out : List Warning} (hnd : header.Nodup)
    (hs : "stall_total" ∉ header) (hm : "miss_total" ∉ header)
    (h : VanillaStatsParser.new dimY dimX header rows = .ok (p, out)) (t : ℕ) :
    (∀ r c, HeaderTotals header (p.tileStat (t, r, c))) ∧
      (∀ g, HeaderTotals header (p.tileGroupStat (t, g))) ∧ HeaderTotals header (p.manycoreStat t) := by
  set σ := parseHeader header
  set cfg : Config := ⟨dimY, dimX, σ⟩
  obtain ⟨st, hst, -, -, htile, hgroup, hmany, -⟩ := new_eq_ok h
  obtain ⟨recs, -, rfl⟩ := cfg.loop_eq_ok.1 hst
  obtain ⟨hI, hS, hM⟩ := parseHeader_categories hs hm
  have hH : HeaderTotals header = TotalsAreSums σ.instrs σ.stalls σ.misses := by
    rw [HeaderTotals, hI, hS, hM]
  have hcols := cfg.columnsIn_foldl recs
  have htot := totals_not_mem_allOps hs hm
  have hT : ∀ r c, TotalsAreSums σ.instrs σ.stalls σ.misses (cfg.tileStatOf _ (t, r, c)) :=
    fun r c => σ.generateTotals_sums _ (categories_not_total hs hm) fun n hn => by
      rw [Counter.count_sub, hcols.tileStart _ _ (htot n hn), hcols.tileEnd _ _ (htot n hn)]; rfl
  rw [hH, htile, hgroup, hmany]
  refine ⟨hT, fun g => ?_, TotalsAreSums.manycore (fun y x => hT y x) (count_allOps_totals hnd hs hm)⟩
  rw [Config.tileGroupStatOf]
  split_ifs
  · refine σ.generateTotals_sums _ (categories_not_total hs hm) fun n hn => ?_
    rw [Counter.count_sub, hcols.groupStart _ _ (htot n hn), hcols.groupEnd _ _ (htot n hn)]; rfl
  · have h0 : ∀ L : List String, (L.map Counter.empty.count).sum = 0 := fun L => by
      induction L <;> simp [*]
    exact ⟨(h0 _).symm, (h0 _).symm, (h0 _).symm⟩

/-- A header with a `stall_total` column, and one window of tag `0` in which that
column goes from `0` to `5`. -/
def stallTotalWindow : List Row :=
  [rowOf [("y", 1), ("tag", 1 * 2 ^ 30), ("stall_total", 0)],
   rowOf [("y", 1), ("tag", 2 * 2 ^ 30), ("stall_total", 5)]]

/-- One window of tag `0` over an instruction and a stall column. -/
def plainWindow : List Row :=
  [rowOf [("y", 1), ("tag", 1 * 2 ^ 30), ("instr_add", 2), ("stall_mem", 1)],
   rowOf [("y", 1), ("tag", 2 * 2 ^ 30), ("instr_add", 7), ("stall_mem", 4)]]

theorem totals_of_plain_window :
    ∃ p out, VanillaStatsParser.new 1 1 ["x", "y", "tag", "instr_add", "stall_mem"] plainWindow =
        .ok (p, out) ∧
      (∀ r c, HeaderTotals ["x", "y", "tag", "instr_add", "stall_mem"] (p.tileStat (0, r, c))) ∧
      (∀ g, HeaderTotals ["x", "y", "tag", "instr_add", "stall_mem"] (p.tileGroupStat (0, g))) ∧
      HeaderTotals ["x", "y", "tag", "instr_add", "stall_mem"] (p.manycoreStat 0) :=
  ⟨_, _, rfl, @totals_are_category_sums 1 1 ["x", "y", "tag", "instr_add", "stall_mem"] plainWindow
    _ _ (by decide) (by decide) (by decide) rfl 0⟩

/-- **A `stall_total` column is counted twice.** `parse_header` files the column
under the stalls, where its `instr_` sibling would have been dropped, so the
stall totals loop adds the tile's `stall_total` into itself: the tile reads `10`,
while the header has no other `stall_` column and the sum of the category is `0`. -/
theorem stall_total_column_counted_twice :
    ∃ p out, VanillaStatsParser.new 1 1 ["x", "y", "tag", "stall_total"] stallTotalWindow =
        .ok (p, out) ∧
      (parseHeader ["x", "y", "tag", "stall_total"]).stalls = ["stall_total"] ∧
      categoryNames ["x", "y", "tag", "stall_total"] "stall_" "stall_total" = [] ∧
      (p.tileStat (0, 0, 0)).count "stall_total" = 10 :=
  ⟨_, _, rfl, rfl, rfl, rfl⟩

theorem Counter.addTotal_nonneg {c : Counter} (h : ∀ k, 0 ≤ c.count k) (total : String)
    (names : List String) (k : String) : 0 ≤ (c.addTotal total names).count k := by
  induction names generalizing c with
  | nil => exact h k
  | cons n names ih =>
    refine ih fun k => ?_
    rw [Counter.count_set]
    split_ifs
    · exact add_nonneg (h _) (h _)
    · exact h k

theorem Schema.generateTotals_nonneg (σ : Schema) {c : Counter} (h : ∀ k, 0 ≤ c.count k)
    (k : String) : 0 ≤ (σ.generateTotals c).count k :=
  Counter.addTotal_nonneg (Counter.addTotal_nonneg (Counter.addTotal_nonneg h _ _) _ _) _ _ k

/-- **Every table holds non-negative counts, at the parser's columns only.** On
every trace the constructor reads, every count of every tile, work-group and
grid table is non-negative (differences are clamped at `0` and the totals add
such counts), and a name that is neither a schema column nor one of the three
totals reads `0` in every table. -/
theorem tables_nonneg_on_columns {dimY dimX : ℕ} {header : List String} {rows : List Row}
    {p : VanillaStatsParser} {out : List Warning}
    (h : VanillaStatsParser.new dimY dimX header rows = .ok (p, out)) :
    (∀ k n, 0 ≤ (p.tileStat k).count n) ∧ (∀ g n, 0 ≤ (p.tileGroupStat g).count n) ∧
      (∀ t n, 0 ≤ (p.manycoreStat t).count n) ∧
    ∀ n, n ∉ (parseHeader header).allOps ++ totalNames →
      (∀ k, (p.tileStat k).count n = 0) ∧ (∀ g, (p.tileGroupStat g).count n = 0) ∧
        ∀ t, (p.manycoreStat t).count n = 0 := by
  set cfg : Config := ⟨dimY, dimX, parseHeader header⟩
  obtain ⟨st, hst, -, -, htile, hgroup, hmany, -⟩ := new_eq_ok h
  obtain ⟨recs, -, rfl⟩ := cfg.loop_eq_ok.1 hst
  have hcols := cfg.columnsIn_foldl recs
  have hsub : ∀ a b : Counter, ∀ k, 0 ≤ (a - b).count k := fun a b k => by
    rw [Counter.count_sub]; exact le_max_left _ _
  have htn : ∀ k n, 0 ≤ (p.tileStat k).count n := fun k n => by
    rw [htile]; exact cfg.schema.generateTotals_nonneg (hsub _ _) n
  refine ⟨htn, fun g n => ?_, fun t n => ?_, fun n hn => ?_⟩
  · rw [hgroup, Config.tileGroupStatOf]
    split_ifs
    · exact cfg.schema.generateTotals_nonneg (hsub _ _) n
    · exact le_rfl
  · rw [hmany, count_generateManycoreStatsAll, ← htile]
    exact Int.mul_nonneg (Int.natCast_nonneg _) (gridSum_nonneg fun y x => htn _ n)
  · obtain ⟨hops, htot⟩ := not_or.1 fun h' => hn (List.mem_append.2 h')
    obtain ⟨hi, hs, hm⟩ := not_mem_totalNames.1 htot
    refine ⟨fun k => ?_, fun g => ?_, fun t => ?_⟩
    · rw [htile, Config.tileStatOf, Schema.count_generateTotals_of_ne _ _ hi hs hm, Counter.count_sub,
        hcols.tileStart _ _ hops, hcols.tileEnd _ _ hops]
      rfl
    · rw [hgroup, Config.tileGroupStatOf]
      split_ifs
      · rw [Schema.count_generateTotals_of_ne _ _ hi hs hm, Counter.count_sub,
          hcols.groupStart _ _ hops, hcols.groupEnd _ _ hops]
        rfl
      · rfl
    · have hn' : n ∉ (parseHeader header).allOps ++ ["instr_total", "stall_total", "miss_total"] := hn
      rw [hmany, count_generateManycoreStatsAll, List.count_eq_zero_of_not_mem hn']
      simp

theorem tables_of_plain_window :
    ∃ p out, VanillaStatsParser.new 1 1 ["x", "y", "tag", "instr_add", "stall_mem"] plainWindow =
        .ok (p, out) ∧
      (∀ k n, 0 ≤ (p.tileStat k).count n) ∧ (∀ g n, 0 ≤ (p.tileGroupStat g).count n) ∧
        (∀ t n, 0 ≤ (p.manycoreStat t).count n) ∧
      ∀ n, n ∉ (parseHeader ["x", "y", "tag", "instr_add", "stall_mem"]).allOps ++ totalNames →
        (∀ k, (p.tileStat k).count n = 0) ∧ (∀ g, (p.tileGroupStat g).count n = 0) ∧
          ∀ t, (p.manycoreStat t).count n = 0 :=
  ⟨_, _, rfl, @tables_nonneg_on_columns 1 1 ["x", "y", "tag", "instr_add", "stall_mem"] plainWindow
    _ _ rfl⟩

end VanillaStats
