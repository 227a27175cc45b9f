import VanillaStats.Proof.Group
import VanillaStats.Proof.Totals

/-!
# Rolling tiles up into work groups and the grid

A work group's table adds up every Start and End line of the group, while a
tile's table keeps only its last Start and last End. The two roll-ups agree when
every tile runs at most one window of the tag, its lines carry one work group and
its counters do not go down inside the window; they drift apart as soon as a tile
runs a second window.

* `columnSum_groupRows`: for lines inside the grid, a work group's summed lines
  are the sum over the tiles of each tile's lines of that group.
* `keyWindow_delta`: a key with at most one window contributes its window's
  difference to its group, and that difference is its tile's.
* `tile_group_stat_eq_sum_of_tiles`: under one window per key, a work group's
  table is the sum of its tiles', and with ids numbered from `0` the groups add
  up to the grid.
* `two_windows_split_tile_and_group`: a tile that runs two windows reports the
  last one while its work group reports both.
* `manycore_stat_sums_tiles`: the grid table is the sum of the tile tables over
  the grid, taken once per listing of the name in `all_ops`.
-/

namespace VanillaStats

/-- The work-group id a line's tag decodes to, `0` when it does not decode. -/
def rowGroup (row : Row) : ℕ :=
  match CudaStatTag.new (row "tag") with
  | .ok cst => cst.tgId
  | .error _ => 0

/-- The work group of key `(t, r, c)`: that of its first line. -/
def keyGroup? (t r c : ℕ) (rows : List Row) : Option ℕ := (keyRows t r c rows).head?.map rowGroup

/-- The last End minus the last Start of key `(t, r, c)` at `op`, `0` standing for
a missing line. -/
def keyDelta (t r c : ℕ) (rows : List Row) (op : String) : ℤ :=
  lastValue (rows.filter (isKeyRow .END t r c)) op - lastValue (rows.filter (isKeyRow .START t r c)) op

/-- Each key of tag `t` runs at most one window over column `op`: its lines are
none, or one Start and then one End of the same work group, the End reading no
less than the Start at `op`. -/
def OneWindow (t : ℕ) (op : String) (rows : List Row) : Prop :=
  ∀ r c, keyRows t r c rows = [] ∨ ∃ s e, keyRows t r c rows = [s, e] ∧
    isKeyRow .START t r c s = true ∧ isKeyRow .END t r c e = true ∧ rowGroup s = rowGroup e ∧
      s op ≤ e op

theorem sum_range_ite (n k : ℕ) (v : ℤ) :
    ((List.range n).map fun i => if i = k then v else 0).sum = if k < n then v else 0 := by
  induction n with
  | zero => simp
  | succ n ih =>
    rw [List.range_succ, List.map_append, List.sum_append, ih]
    by_cases h1 : k < n <;> by_cases h2 : n = k <;> simp [h1, h2] <;> omega

theorem gridSum_single (dimY dimX y0 x0 : ℕ) (v : ℤ) :
    gridSum dimY dimX (fun y x => if y = y0 ∧ x = x0 then v else 0) =
      if y0 < dimY ∧ x0 < dimX then v else 0 := by
  have hrow : ∀ y, ((List.range dimX).map fun x => if y = y0 ∧ x = x0 then v else 0).sum =
      if y = y0 then (if x0 < dimX then v else 0) else 0 := fun y => by
    by_cases hy : y = y0
    · simp only [hy, true_and, if_true]; exact sum_range_ite dimX x0 v
    · simp [hy]
  simp only [gridSum, hrow]
  rw [sum_range_ite, ite_and]

theorem columnSum_filter_cons (row : Row) (rows : List Row) (p : Row → Bool) (op : String) :
    columnSum ((row :: rows).filter p) op = (if p row then row op else 0) + columnSum (rows.filter p) op := by
  by_cases h : p row <;> simp [columnSum, List.filter_cons, h]

theorem isKeyRow_and_rowGroup (kind : StatType) (t r c g : ℕ) (row : Row) :
    (isKeyRow kind t r c row && rowGroup row == g) =
      (isGroupRow kind t g row && decide (row "y" = r + 1 ∧ row "x" = c)) := by
  unfold isKeyRow rowGroup isGroupRow
  rcases CudaStatTag.new (row "tag") with _ | cst
  · rfl
  · rw [Bool.eq_iff_iff]
    simp only [Bool.and_eq_true, decide_eq_true_eq, beq_iff_eq]
    tauto

theorem startId_of_isKeyRow {t r c : ℕ} {row : Row} (h : isKeyRow .START t r c row = true) :
    startId? t row = some (rowGroup row) := by
  obtain ⟨cst, hc, h1, h2, -⟩ := isKeyRow_eq_true.1 h
  simp [startId?, rowGroup, hc, h1, h2]

/-- A filter that keeps only lines of kind `kind` of a key reads the key's lines. -/
theorem filter_keyRows {kind : StatType} (hk : kind = .START ∨ kind = .END) (t r c : ℕ)
    (rows : List Row) (q : Row → Bool) :
    rows.filter (fun row => isKeyRow kind t r c row && q row) =
      (keyRows t r c rows).filter fun row => isKeyRow kind t r c row && q row := by
  rw [keyRows, List.filter_filter]
  refine List.filter_congr fun row _ => ?_
  rcases hk with rfl | rfl <;> cases isKeyRow .START t r c row <;> cases isKeyRow .END t r c row <;>
    simp

theorem filter_isKeyRow {kind : StatType} (hk : kind = .START ∨ kind = .END) (t r c : ℕ)
    (rows : List Row) :
    rows.filter (isKeyRow kind t r c) = (keyRows t r c rows).filter (isKeyRow kind t r c) := by
  have h := filter_keyRows hk t r c rows fun _ => true
  simp only [Bool.and_true] at h
  exact h

theorem keyDelta_of_nil {t r c : ℕ} {rows : List Row} (h : keyRows t r c rows = []) (op : String) :
    keyDelta t r c rows op = 0 := by
  rw [keyDelta, filter_isKeyRow (Or.inr rfl), filter_isKeyRow (Or.inl rfl), h]
  rfl

/-- A key's work group is the id of one of the tag's Start lines. -/
theorem keyGroup_mem_startIds {t : ℕ} {op : String} {rows : List Row} (hw : OneWindow t op rows)
    {r c g : ℕ} (hk : keyGroup? t r c rows = some g) : g ∈ rows.filterMap (startId? t) := by
  rcases hw r c with hnil | ⟨s, e, hse, hs, -⟩ <;> rw [keyGroup?] at hk
  · simp [hnil] at hk
  · rw [hse] at hk
    obtain rfl := Option.some_inj.1 hk
    have hmem : s ∈ rows := (List.mem_filter.1 (hse ▸ List.mem_cons_self s [e] : s ∈ keyRows t r c rows)).1
    exact List.mem_filterMap.2 ⟨s, hmem, startId_of_isKeyRow hs⟩

/-- A key none of whose lines sits at its coordinates has no lines. -/
theorem keyRows_eq_nil {t r c : ℕ} {rows : List Row}
    (h : ∀ row ∈ rows, ¬(row "y" = r + 1 ∧ row "x" = c)) : keyRows t r c rows = [] := by
  refine List.filter_eq_nil_iff.2 fun row hrow hk => h row hrow ?_
  rcases Bool.or_eq_true _ _ ▸ hk with hk | hk <;> exact isKeyRow_coords hk

/-- **A work group's lines, tile by tile.** For lines inside the grid, the lines of
kind `kind`, tag field `t` and work group `g`, summed at `op`, are the sum over the
tiles of the tile's lines of that kind, tag and group. -/
theorem columnSum_groupRows {dimY dimX : ℕ} {rows : List Row}
    (hg : ∀ row ∈ rows, InGrid dimY dimX row) (kind : StatType) (t g : ℕ) (op : String) :
    columnSum (rows.filter (isGroupRow kind t g)) op =
      gridSum dimY dimX fun r c =>
        columnSum (rows.filter fun row => isKeyRow kind t r c row && rowGroup row == g) op := by
  induction rows with
  | nil => exact (gridSum_zero dimY dimX).symm
  | cons row rows ih =>
    obtain ⟨hy1, hy2, hx1, hx2⟩ := hg row (List.mem_cons_self _ _)
    simp only [columnSum_filter_cons]
    rw [gridSum_add, ← ih fun row' h' => hg row' (List.mem_cons_of_mem _ h')]
    congr 1
    have hpt : (fun r c => if (isKeyRow kind t r c row && rowGroup row == g) = true then row op else 0) =
        fun r c => if r = (row "y" - 1).toNat ∧ c = (row "x").toNat then
          (if isGroupRow kind t g row then row op else 0) else 0 := by
      funext r c
      have hiff : (row "y" = r + 1 ∧ row "x" = c) ↔ (r = (row "y" - 1).toNat ∧ c = (row "x").toNat) := by
        constructor <;> rintro ⟨h1, h2⟩ <;> constructor <;> omega
      rw [isKeyRow_and_rowGroup]
      cases isGroupRow kind t g row <;> simp [hiff]
    rw [hpt, gridSum_single, if_pos (show (row "y" - 1).toNat < dimY ∧ (row "x").toNat < dimX from
      ⟨by omega, by omega⟩)]

/-- **One window per key.** A key with at most one window over `op` puts its
window's difference, which is non-negative, into its group and nothing into any
other. -/
theorem keyWindow_delta {t : ℕ} {op : String} {rows : List Row} (hw : OneWindow t op rows) (r c g : ℕ) :
    columnSum (rows.filter fun row => isKeyRow .END t r c row && rowGroup row == g) op -
        columnSum (rows.filter fun row => isKeyRow .START t r c row && rowGroup row == g) op =
      (if keyGroup? t r c rows = some g then keyDelta t r c rows op else 0) ∧
      0 ≤ keyDelta t r c rows op := by
  rw [filter_keyRows (Or.inr rfl), filter_keyRows (Or.inl rfl), keyDelta, filter_isKeyRow (Or.inr rfl),
    filter_isKeyRow (Or.inl rfl), keyGroup?]
  rcases hw r c with hk | ⟨s, e, hk, hs, he, hse, hop⟩ <;> rw [hk]
  · simp [columnSum, lastValue]
  · have hes := isKeyRow_of_ne he (by decide : StatType.START ≠ .END)
    have hse' := isKeyRow_of_ne hs (by decide : StatType.END ≠ .START)
    by_cases hg : rowGroup s = g <;>
      simp [columnSum, lastValue, List.filter_cons, hs, he, hes, hse', hg, hse ▸ hg, hop]

/-- **Work groups roll up their tiles when each tile runs one window.** For a
header without repeated names, lines inside the grid, a schema column `op` other
than the totals, and a tag `t` each of whose keys runs at most one window over
`op` (one Start then one End of one work group, not decreasing at `op`): every
work group `g < num_tile_groups[t]` has `tile_group_stat[t][g][op]` equal to the
sum of `tile_stat[t][r][c][op]` over the tiles whose lines carry `g`; and when
every Start id of tag `t` is below `num_tile_groups[t]` (ids numbered from `0`),
these add up to `manycore_stat[t][op]`. -/
theorem tile_group_stat_eq_sum_of_tiles {dimY dimX : ℕ} {header : List String} {rows : List Row}
    {p : VanillaStatsParser} {out : List Warning} (hnd : header.Nodup)
    (hgrid : ∀ row ∈ rows, InGrid dimY dimX row)
    (h : VanillaStatsParser.new dimY dimX header rows = .ok (p, out)) (t : ℕ) {op : String}
    (hop : op ∈ (parseHeader header).allOps) (hs : op ≠ "stall_total") (hm : op ≠ "miss_total")
    (hw : OneWindow t op rows) :
    (∀ g < p.numTileGroups t, (p.tileGroupStat (t, g)).count op =
      gridSum dimY dimX fun r c =>
        if keyGroup? t r c rows = some g then (p.tileStat (t, r, c)).count op else 0) ∧
    ((∀ i ∈ rows.filterMap (startId? t), i < p.numTileGroups t) →
      ((List.range (p.numTileGroups t)).map fun g => (p.tileGroupStat (t, g)).count op).sum =
        (p.manycoreStat t).count op) := by
  set cfg : Config := ⟨dimY, dimX, parseHeader header⟩
  obtain ⟨st, hst, -, hng, htile, hgroup, hmany, -⟩ := new_eq_ok h
  obtain ⟨recs, hrecs, rfl⟩ := cfg.loop_eq_ok.1 hst
  have hi : op ≠ "instr_total" := fun e => instr_total_not_mem_allOps header (e ▸ hop)
  have hcount : cfg.schema.allOps.count op = 1 := List.count_eq_one_of_mem (allOps_nodup hnd) hop
  -- each tile reads its window's difference
  have htk : ∀ r c, (p.tileStat (t, r, c)).count op = keyDelta t r c rows op := fun r c => by
    rw [htile, cfg.tileStatOf_count hgrid hrecs t r c hop hi hs hm]
    exact max_eq_right (keyWindow_delta hw r c 0).2
  -- each group reads the sum of its tiles' differences
  have hgk : ∀ g < p.numTileGroups t, (p.tileGroupStat (t, g)).count op =
      gridSum dimY dimX fun r c => if keyGroup? t r c rows = some g then keyDelta t r c rows op else 0 := by
    intro g hg
    rw [hng] at hg
    rw [hgroup, cfg.tileGroupStatOf_count hrecs t g hi hs hm, if_pos hg, hcount, Nat.cast_one, one_mul,
      columnSum_groupRows hgrid, columnSum_groupRows hgrid, ← gridSum_sub]
    simp only [fun r c => (keyWindow_delta hw r c g).1]
    exact max_eq_right (gridSum_nonneg fun y x => ite_nonneg (keyWindow_delta hw y x g).2 le_rfl)
  refine ⟨fun g hg => by rw [hgk g hg]; simp only [htk], fun hdense => ?_⟩
  have h0 : ["instr_total", "stall_total", "miss_total"].count op = 0 :=
    List.count_eq_zero_of_not_mem (by simp [hi, hs, hm])
  rw [List.map_congr_left fun g hg => hgk g (List.mem_range.1 hg), ← gridSum_list_sum, hmany,
    count_generateManycoreStatsAll, List.count_append, h0, hcount, ← htile]
  simp only [Nat.add_zero, Nat.cast_one, one_mul, htk]
  refine gridSum_congr fun r _ c _ => ?_
  rcases hk : keyGroup? t r c rows with _ | g0
  · have hnil : keyRows t r c rows = [] := by simpa [keyGroup?] using hk
    simp [keyDelta_of_nil hnil]
  · simp only [Option.some.injEq, @eq_comm _ g0]
    rw [sum_range_ite, if_pos (hdense g0 (keyGroup_mem_startIds hw hk))]

/-- One window of tag `0` in work group `0` on a one-tile grid, `global_ctr`
going from `0` to `10`. -/
def singleWindow : List Row :=
  [rowOf [("y", 1), ("tag", 1 * 2 ^ 30), ("global_ctr", 0)],
   rowOf [("y", 1), ("tag", 2 * 2 ^ 30), ("global_ctr", 10)]]

theorem singleWindow_runs_one_window : OneWindow 0 "global_ctr" singleWindow := by
  intro r c
  by_cases hrc : r = 0 ∧ c = 0
  · obtain ⟨rfl, rfl⟩ := hrc
    exact Or.inr ⟨_, _, rfl, rfl, rfl, rfl, by decide⟩
  · have hyx : ∀ row ∈ singleWindow, row "y" = 1 ∧ row "x" = 0 := by decide
    refine Or.inl (keyRows_eq_nil fun row hrow h => hrc ?_)
    obtain ⟨h1, h2⟩ := hyx row hrow
    exact ⟨by omega, by omega⟩

theorem tile_group_stat_of_single_window :
    ∃ p out, VanillaStatsParser.new 1 1 ["x", "y", "tag", "global_ctr"] singleWindow = .ok (p, out) ∧
      (∀ g < p.numTileGroups 0, (p.tileGroupStat (0, g)).count "global_ctr" =
        gridSum 1 1 fun r c =>
          if keyGroup? 0 r c singleWindow = some g then (p.tileStat (0, r, c)).count "global_ctr" else 0) ∧
      ((∀ i ∈ singleWindow.filterMap (startId? 0), i < p.numTileGroups 0) →
        ((List.range (p.numTileGroups 0)).map fun g => (p.tileGroupStat (0, g)).count "global_ctr").sum =
          (p.manycoreStat 0).count "global_ctr") :=
  ⟨_, _, rfl, @tile_group_stat_eq_sum_of_tiles 1 1 ["x", "y", "tag", "global_ctr"] singleWindow _ _
    (by decide) (by decide) rfl 0 "global_ctr" (by decide) (by decide) (by decide)
    singleWindow_runs_one_window⟩

/-- Two windows of tag `0` in work group `0` on a one-tile grid: Start and End
lines alternate, `global_ctr` reading `0`, `10`, `20`, `30`. -/
def twoWindows : List Row :=
  [rowOf [("y", 1), ("tag", 1 * 2 ^ 30), ("global_ctr", 0)],
   rowOf [("y", 1), ("tag", 2 * 2 ^ 30), ("global_ctr", 10)],
   rowOf [("y", 1), ("tag", 1 * 2 ^ 30), ("global_ctr", 20)],
   rowOf [("y", 1), ("tag", 2 * 2 ^ 30), ("global_ctr", 30)]]

/-- **A second window splits the roll-ups.** The tile keeps its last window,
`30 - 20 = 10`, and so does the grid, while work group `0`, the only one, adds up
both, `(10 + 30) - (0 + 20) = 20`. -/
theorem two_windows_split_tile_and_group :
    ∃ p out, VanillaStatsParser.new 1 1 ["x", "y", "tag", "global_ctr"] twoWindows = .ok (p, out) ∧
      p.numTileGroups 0 = 1 ∧ keyGroup? 0 0 0 twoWindows = some 0 ∧
      (p.tileStat (0, 0, 0)).count "global_ctr" = 10 ∧
      (p.tileGroupStat (0, 0)).count "global_ctr" = 20 ∧
      (p.manycoreStat 0).count "global_ctr" = 10 :=
  ⟨_, _, rfl, rfl, rfl, rfl, rfl, rfl⟩

/-- **The grid table sums the tile tables.** On every trace the constructor
reads, `manycore_stat[t][n]` is the sum of `tile_stat[t][y][x][n]` over the
grid, taken as many times as `all_ops` lists `n`: as often as the header lists
it, plus once for each of the three totals (so a header that carries its own
`stall_total` or `miss_total` column doubles that total in the grid table), and
never for a name outside the header. -/
theorem manycore_stat_sums_tiles {dimY dimX : ℕ} {header : List String} {rows : List Row}
    {p : VanillaStatsParser} {out : List Warning}
    (h : VanillaStatsParser.new dimY dimX header rows = .ok (p, out)) (t : ℕ) (n : String) :
    (p.manycoreStat t).count n =
      ((header.filter (· ≠ "instr_total") ++ totalNames).count n : ℤ) *
        gridSum dimY dimX fun y x => (p.tileStat (t, y, x)).count n := by
  obtain ⟨st, -, -, -, htile, -, hmany, -⟩ := new_eq_ok h
  rw [hmany, count_generateManycoreStatsAll, ← htile, List.count_append, List.count_append,
    count_allOps]
  rfl

theorem manycore_stat_of_single_window :
    ∃ p out, VanillaStatsParser.new 1 1 ["x", "y", "tag", "global_ctr"] singleWindow = .ok (p, out) ∧
      (p.manycoreStat 0).count "global_ctr" =
        ((["x", "y", "tag", "global_ctr"].filter (· ≠ "instr_total") ++ totalNames).count
            "global_ctr" : ℤ) *
          gridSum 1 1 fun y x => (p.tileStat (0, y, x)).count "global_ctr" :=
  ⟨_, _, rfl, @manycore_stat_sums_tiles 1 1 ["x", "y", "tag", "global_ctr"] singleWindow _ _ rfl 0
    "global_ctr"⟩

end VanillaStats
