import VanillaStats.Proof.Group
import VanillaStats.Proof.Totals

/-!
# What the order of the lines, and the Stat lines, change

A work group's accumulators add up every Start and End line of the group, and
`num_tile_groups` counts the distinct ids of the Start lines, so neither sees the
order of the trace. A tile's table keeps the last Start and End of its key and the
missing-start warnings follow the running balance, so those do see the order of a
key's lines. A Stat line (type bits `0`) falls through both branches of the loop
body, so no table, count or warning sees it at all.

* `mapM_perm`: reading a reordered trace succeeds when reading the trace does,
  with the readings reordered.
* `groupView_count_perm`: the group accumulators of two reorderings of the
  readings hold the same counts.
* `tile_groups_ignore_line_order`: construction on any reordering of a trace it
  completes on completes too, with the same `num_tile_groups` and work-group
  tables holding the same counts (what `Counter.__eq__` compares).
* `stat_lines_change_nothing`: dropping every Stat line leaves the constructor's
  result as it is, tables, warnings and raised error alike.
-/

namespace VanillaStats

/-- Reading a reordered list succeeds when reading the list does, with the
results reordered. -/
theorem mapM_perm {α β ε : Type} {f : α → Except ε β} {l l' : List α} (hp : l.Perm l')
    {bs : List β} (h : l.mapM f = .ok bs) : ∃ bs', l'.mapM f = .ok bs' ∧ bs.Perm bs' := by
  induction hp generalizing bs with
  | nil => exact ⟨bs, h, .refl _⟩
  | cons a _ ih =>
    simp only [List.mapM_cons, bind_eq_ok, pure, Except.pure, Except.ok.injEq] at h
    obtain ⟨b, hb, bs0, hbs0, rfl⟩ := h
    obtain ⟨bs1, h1, hp1⟩ := ih hbs0
    exact ⟨b :: bs1, by rw [List.mapM_cons, hb, h1]; rfl, hp1.cons b⟩
  | swap a b l =>
    simp only [List.mapM_cons, bind_eq_ok, pure, Except.pure, Except.ok.injEq] at h
    obtain ⟨vb, hb, _, ⟨va, ha, vl, hl, rfl⟩, rfl⟩ := h
    exact ⟨va :: vb :: vl, by rw [List.mapM_cons, List.mapM_cons, ha, hb, hl]; rfl, .swap va vb vl⟩
  | trans _ _ ih1 ih2 =>
    obtain ⟨bs1, h1, hp1⟩ := ih1 h
    obtain ⟨bs2, h2, hp2⟩ := ih2 h1
    exact ⟨bs2, h2, hp1.trans hp2⟩

/-- The totals loops read a counter through its counts only. -/
theorem Counter.addTotal_count_congr {c c' : Counter} (h : ∀ k, c.count k = c'.count k)
    (total : String) (names : List String) (k : String) :
    (c.addTotal total names).count k = (c'.addTotal total names).count k := by
  induction names generalizing c c' with
  | nil => exact h k
  | cons n names ih => exact ih fun k => by simp only [Counter.count_set, h]

theorem Schema.generateTotals_count_congr (σ : Schema) {c c' : Counter}
    (h : ∀ k, c.count k = c'.count k) (k : String) :
    (σ.generateTotals c).count k = (σ.generateTotals c').count k :=
  Counter.addTotal_count_congr (Counter.addTotal_count_congr
    (Counter.addTotal_count_congr h _ _) _ _) _ _ k

namespace Config

variable (cfg : Config)

/-- **The group accumulators are order-free**: two reorderings of the readings
leave every work group's accumulators with the same counts. -/
theorem groupView_count_perm {recs recs' : List Record} (hp : recs.Perm recs') (g : GroupKey)
    (op : String) :
    ((recs.foldl cfg.apply .init).groupView g).startAcc.count op =
        ((recs'.foldl cfg.apply .init).groupView g).startAcc.count op ∧
      ((recs.foldl cfg.apply .init).groupView g).endAcc.count op =
        ((recs'.foldl cfg.apply .init).groupView g).endAcc.count op := by
  rw [groupView_foldl, groupView_foldl]
  obtain ⟨hS, hE⟩ := cfg.groupStep_foldl_count (recs.filter (·.group? == some g))
    (TileStatsState.init.groupView g) op
  obtain ⟨hS', hE'⟩ := cfg.groupStep_foldl_count (recs'.filter (·.group? == some g))
    (TileStatsState.init.groupView g) op
  have hsum : ∀ q : Record → Bool,
      columnSum (((recs.filter (·.group? == some g)).filter q).map Record.trace) op =
        columnSum (((recs'.filter (·.group? == some g)).filter q).map Record.trace) op :=
    fun q => ((((hp.filter _).filter q).map Record.trace).map _).sum_eq
  rw [hS, hE, hS', hE', hsum, hsum]
  exact ⟨rfl, rfl⟩

end Config

/-- **Work groups do not see the order of the lines.** If construction completes
on a trace, it completes on every reordering of it, with the same
`num_tile_groups` and with every work-group table holding the same count at every
name. -/
theorem tile_groups_ignore_line_order {dimY dimX : ℕ} {header : List String} {rows rows' : List Row}
    {p : VanillaStatsParser} {out : List Warning} (hp : rows.Perm rows')
    (h : VanillaStatsParser.new dimY dimX header rows = .ok (p, out)) :
    ∃ p' out', VanillaStatsParser.new dimY dimX header rows' = .ok (p', out') ∧
      p'.numTileGroups = p.numTileGroups ∧
      ∀ g k, (p'.tileGroupStat g).count k = (p.tileGroupStat g).count k := by
  set cfg : Config := ⟨dimY, dimX, parseHeader header⟩
  obtain ⟨st, hst, -, hng, -, hgroup, -⟩ := new_eq_ok h
  obtain ⟨recs, hrecs, rfl⟩ := cfg.loop_eq_ok.1 hst
  obtain ⟨recs', hrecs', hpr⟩ := mapM_perm hp hrecs
  have hloop : cfg.generateTileStatsLoop rows' = .ok (recs'.foldl cfg.apply .init) :=
    cfg.loop_eq_ok.2 ⟨recs', hrecs', rfl⟩
  obtain ⟨p', out', h'⟩ : ∃ p' out', VanillaStatsParser.new dimY dimX header rows' = .ok (p', out') := by
    simp only [VanillaStatsParser.new, Config.generateTileStats]
    rw [hloop]
    exact ⟨_, _, rfl⟩
  obtain ⟨st', hst', -, hng', -, hgroup', -⟩ := new_eq_ok h'
  obtain rfl := Except.ok.inj (hst'.symm.trans hloop)
  have hcount : p'.numTileGroups = p.numTileGroups := by
    funext t
    rw [hng, hng', cfg.numTileGroups_foldl hrecs, cfg.numTileGroups_foldl hrecs',
      List.toFinset_eq_of_perm _ _ (hp.filterMap _)]
  refine ⟨p', out', h', hcount, fun g k => ?_⟩
  rw [hgroup, hgroup', Config.tileGroupStatOf, Config.tileGroupStatOf, ← hng, ← hng', hcount]
  split_ifs
  · refine cfg.schema.generateTotals_count_congr (fun k => ?_) k
    obtain ⟨hS, hE⟩ := cfg.groupView_count_perm hpr g k
    rw [Counter.count_sub, Counter.count_sub]
    exact congrArg₂ (fun a b => max 0 (a - b)) hE.symm hS.symm
  · rfl

/-- A Start and an End of tag `0` in work group `0`, `global_ctr` going from `0`
to `10`. -/
def groupWindow : List Row :=
  [rowOf [("y", 1), ("tag", 1 * 2 ^ 30), ("global_ctr", 0)],
   rowOf [("y", 1), ("tag", 2 * 2 ^ 30), ("global_ctr", 10)]]

theorem tile_groups_of_reversed_window :
    ∃ p out, VanillaStatsParser.new 1 1 ["x", "y", "tag", "global_ctr"] groupWindow = .ok (p, out) ∧
      ∃ p' out', VanillaStatsParser.new 1 1 ["x", "y", "tag", "global_ctr"] groupWindow.reverse =
          .ok (p', out') ∧
        p'.numTileGroups = p.numTileGroups ∧
        ∀ g k, (p'.tileGroupStat g).count k = (p.tileGroupStat g).count k :=
  ⟨_, _, rfl, @tile_groups_ignore_line_order 1 1 ["x", "y", "tag", "global_ctr"] groupWindow
    groupWindow.reverse _ _ (List.reverse_perm _).symm rfl⟩

namespace Config

variable (cfg : Config)

/-- A line with type bits `0` reads as a Stat line once `all_ops` has the three
columns the body reads. -/
theorem record_of_stat_bits {row : Row} (hy : "y" ∈ cfg.schema.allOps)
    (hx : "x" ∈ cfg.schema.allOps) (ht : "tag" ∈ cfg.schema.allOps)
    (hs : row "tag" / 2 ^ 30 % 4 = 0) : cfg.record row = .ok .stat :=
  cfg.record_eq_ok.2 ⟨hy, hx, ht, ⟨row "tag", .STAT⟩,
    CudaStatTag.new_eq_ok.2 ⟨rfl, by rw [show (1073741824 : ℤ) = 2 ^ 30 by norm_num]; exact hs⟩,
    .inl ⟨rfl, rfl, rfl⟩⟩

/-- **The loop skips Stat lines**: from any state, it ends as it does on the
trace without them. -/
theorem foldlM_filter_stat (hy : "y" ∈ cfg.schema.allOps) (hx : "x" ∈ cfg.schema.allOps)
    (ht : "tag" ∈ cfg.schema.allOps) (rows : List Row) (s0 : TileStatsState) :
    (rows.filter fun row => row "tag" / 2 ^ 30 % 4 ≠ 0).foldlM cfg.generateTileStatsStep s0 =
      rows.foldlM cfg.generateTileStatsStep s0 := by
  induction rows generalizing s0 with
  | nil => rfl
  | cons row rows ih =>
    by_cases hs : row "tag" / 2 ^ 30 % 4 = 0
    · rw [List.filter_cons_of_neg (by simpa using hs), List.foldlM_cons, step_eq,
        cfg.record_of_stat_bits hy hx ht hs, ih]
      rfl
    · rw [List.filter_cons_of_pos (by simpa using hs), List.foldlM_cons, List.foldlM_cons]
      exact congrArg _ (funext ih)

end Config

/-- **Stat lines change nothing.** For every grid, every header with `y`, `x`
and `tag` columns, and every trace, the constructor returns the same parser and
prints the same warnings, or raises the same error, on the trace with every
Stat line (type bits `(tag >> 30) & 3` equal to `0`) dropped. -/
theorem stat_lines_change_nothing (dimY dimX : ℕ) (header : List String) (rows : List Row)
    (hy : "y" ∈ header) (hx : "x" ∈ header) (ht : "tag" ∈ header) :
    VanillaStatsParser.new dimY dimX header (rows.filter fun row => row "tag" / 2 ^ 30 % 4 ≠ 0) =
      VanillaStatsParser.new dimY dimX header rows := by
  have hmem : ∀ n ∈ header, n ≠ "instr_total" → n ∈ (parseHeader header).allOps :=
    fun n hn hne => mem_allOps_iff.2 ⟨hn, hne⟩
  simp only [VanillaStatsParser.new, Config.generateTileStats, Config.generateTileStatsLoop,
    Config.foldlM_filter_stat ⟨dimY, dimX, parseHeader header⟩ (hmem _ hy (by decide)) (hmem _ hx (by decide))
      (hmem _ ht (by decide))]

/-- A Stat line between a Start and an End of tag `0`. -/
def statWindow : List Row :=
  [rowOf [("y", 1), ("tag", 1 * 2 ^ 30), ("global_ctr", 0)],
   rowOf [("y", 1), ("tag", 0), ("global_ctr", 5)],
   rowOf [("y", 1), ("tag", 2 * 2 ^ 30), ("global_ctr", 10)]]

theorem stat_line_of_stat_window :
    "y" ∈ ["x", "y", "tag", "global_ctr"] ∧ "x" ∈ ["x", "y", "tag", "global_ctr"] ∧
      "tag" ∈ ["x", "y", "tag", "global_ctr"] ∧
      VanillaStatsParser.new 1 1 ["x", "y", "tag", "global_ctr"]
          (statWindow.filter fun row => row "tag" / 2 ^ 30 % 4 ≠ 0) =
        VanillaStatsParser.new 1 1 ["x", "y", "tag", "global_ctr"] statWindow :=
  ⟨by decide, by decide, by decide, stat_lines_change_nothing 1 1 ["x", "y", "tag", "global_ctr"]
    statWindow (by decide) (by decide) (by decide)⟩

end VanillaStats
