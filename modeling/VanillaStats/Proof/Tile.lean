import VanillaStats.Proof.Step

/-!
# One tile's part of the loop

A record writes the Start snapshot, End snapshot and credits of its own tile
index only (`tileView_apply`), so for every tile these are the fold of the
tile's own records (`tileView_foldl`). Which records are a tile's is decided by
Python's subscripts: `y - 1` and `x` reach row `r` and column `c` also from
`r - dim_y` and `c - dim_x`, so a line at `y = 0` or `x = -1` belongs to a tile
of the last row or column.

* `tile_of_own_records`: `tile_stat[t][r][c]` and the credits of `(t, r, c)` are
  those of the loop run on the lines that reach `(t, r, c)` alone, so traces
  with the same such lines agree there.
* `offgrid_lands_on_last_row`: a Start and End at `y = 0` fill tile `(0, 0)` of
  a one-row grid, which the lines at `y = 1` leave empty.
-/

namespace VanillaStats

/-- A line with the given columns, `0` elsewhere. -/
def rowOf (cols : List (String × ℤ)) : Row := fun k => (cols.lookup k).getD 0

/-- One tile's part of the loop state. -/
structure TileView where
  startSnap : Counter
  endSnap : Counter
  credits : ℤ

/-- Tile `k`'s part of `st`. -/
def TileStatsState.tileView (st : TileStatsState) (k : TileKey) : TileView :=
  ⟨st.tileStatStart k, st.tileStatEnd k, st.tagCredits k⟩

namespace Config

variable (cfg : Config)

/-- What a record of the tile does to it. -/
def tileStep (v : TileView) : Record → TileView
  | .stat => v
  | .startAt _ _ trace => ⟨v.startSnap.setEach cfg.schema.allOps trace, v.endSnap, v.credits + 1⟩
  | .endAt _ _ trace _ _ => ⟨v.startSnap, v.endSnap.setEach cfg.schema.allOps trace, v.credits - 1⟩

theorem tileView_apply (st : TileStatsState) (r : Record) (k : TileKey) :
    (cfg.apply st r).tileView k =
      if r.tile? == some k then cfg.tileStep (st.tileView k) r else st.tileView k := by
  cases r with
  | stat => rfl
  | startAt k' g trace =>
    by_cases hk : k = k' <;> simp [apply, tileStep, Record.tile?, TileStatsState.tileView, hk, Ne.symm]
  | endAt k' g trace x y =>
    by_cases hk : k = k' <;> simp [apply, tileStep, Record.tile?, TileStatsState.tileView, hk, Ne.symm]

/-- **A tile is the fold of its own records.** -/
theorem tileView_foldl (recs : List Record) (st : TileStatsState) (k : TileKey) :
    (recs.foldl cfg.apply st).tileView k =
      (recs.filter (·.tile? == some k)).foldl cfg.tileStep (st.tileView k) := by
  induction recs generalizing st with
  | nil => rfl
  | cons r recs ih =>
    rw [List.foldl_cons, ih, tileView_apply, List.filter_cons]
    split_ifs <;> rfl

theorem tileStatStart_foldl (recs : List Record) (st : TileStatsState) (k : TileKey) :
    (recs.foldl cfg.apply st).tileStatStart k =
      ((recs.filter (·.tile? == some k)).foldl cfg.tileStep (st.tileView k)).startSnap :=
  congrArg TileView.startSnap (cfg.tileView_foldl recs st k)

theorem tileStatEnd_foldl (recs : List Record) (st : TileStatsState) (k : TileKey) :
    (recs.foldl cfg.apply st).tileStatEnd k =
      ((recs.filter (·.tile? == some k)).foldl cfg.tileStep (st.tileView k)).endSnap :=
  congrArg TileView.endSnap (cfg.tileView_foldl recs st k)

/-- The loop reads the line as a Start or End of tile index `k`. -/
def atTile (k : TileKey) (row : Row) : Bool :=
  match cfg.record row with
  | .ok r => r.tile? == some k
  | .error _ => false

theorem tileStatOf_congr {st st' : TileStatsState} {k : TileKey}
    (h : st.tileView k = st'.tileView k) : cfg.tileStatOf st k = cfg.tileStatOf st' k := by
  simp only [TileStatsState.tileView, TileView.mk.injEq] at h
  simp only [tileStatOf, h.1, h.2.1]

/-- **A tile depends on the lines that reach it and on nothing else.**
`tile_stat[t][r][c]` and the final credits of `(t, r, c)` are those of the loop
run on the lines read as a Start or End of `(t, r, c)`; so two traces whose such
lines are the same agree there, whatever their other lines and their order. -/
theorem tile_of_own_records (k : TileKey) :
    (∀ rows st, cfg.generateTileStatsLoop rows = .ok st →
      ∃ st', cfg.generateTileStatsLoop (rows.filter (cfg.atTile k)) = .ok st' ∧
        cfg.tileStatOf st' k = cfg.tileStatOf st k ∧ st'.tagCredits k = st.tagCredits k) ∧
    (∀ rows₁ rows₂ st₁ st₂, cfg.generateTileStatsLoop rows₁ = .ok st₁ →
      cfg.generateTileStatsLoop rows₂ = .ok st₂ →
      rows₁.filter (cfg.atTile k) = rows₂.filter (cfg.atTile k) →
        cfg.tileStatOf st₁ k = cfg.tileStatOf st₂ k ∧ st₁.tagCredits k = st₂.tagCredits k) := by
  have own : ∀ rows st, cfg.generateTileStatsLoop rows = .ok st →
      ∃ st', cfg.generateTileStatsLoop (rows.filter (cfg.atTile k)) = .ok st' ∧
        st'.tileView k = st.tileView k := by
    intro rows st h
    obtain ⟨recs, hrecs, rfl⟩ := cfg.loop_eq_ok.1 h
    refine ⟨_, cfg.loop_filter hrecs (·.tile? == some k), ?_⟩
    rw [tileView_foldl, tileView_foldl, List.filter_filter]
    simp only [Bool.and_self]
  refine ⟨fun rows st h => ?_, fun rows₁ rows₂ st₁ st₂ h₁ h₂ he => ?_⟩
  · obtain ⟨st', h', hv⟩ := own rows st h
    exact ⟨st', h', cfg.tileStatOf_congr hv, congrArg TileView.credits hv⟩
  · obtain ⟨s₁, h₁', hv₁⟩ := own rows₁ st₁ h₁
    obtain ⟨s₂, h₂', hv₂⟩ := own rows₂ st₂ h₂
    rw [he, h₂'] at h₁'
    cases h₁'
    have hv : st₁.tileView k = st₂.tileView k := hv₁.symm.trans hv₂
    exact ⟨cfg.tileStatOf_congr hv, congrArg TileView.credits hv⟩

end Config

/-- A one-tile grid over the `global_ctr` column. -/
def oneTileConfig : Config := ⟨1, 1, parseHeader ["x", "y", "tag", "global_ctr"]⟩

/-- A window of tag `0` with its lines at `y = 0`, around a window of tag `1` at
`y = 1`. -/
def wrappedWindows : List Row :=
  [rowOf [("tag", 1 * 2 ^ 30), ("global_ctr", 0)],
   rowOf [("y", 1), ("tag", 1 * 2 ^ 30 + 1), ("global_ctr", 3)],
   rowOf [("y", 1), ("tag", 2 * 2 ^ 30 + 1), ("global_ctr", 5)],
   rowOf [("tag", 2 * 2 ^ 30), ("global_ctr", 10)]]

theorem own_records_of_wrapped_windows :
    ∃ st, oneTileConfig.generateTileStatsLoop wrappedWindows = .ok st ∧
      ∃ st', oneTileConfig.generateTileStatsLoop
          (wrappedWindows.filter (oneTileConfig.atTile (0, 0, 0))) = .ok st' ∧
        oneTileConfig.tileStatOf st' (0, 0, 0) = oneTileConfig.tileStatOf st (0, 0, 0) ∧
          st'.tagCredits (0, 0, 0) = st.tagCredits (0, 0, 0) :=
  ⟨_, rfl, (Config.tile_of_own_records oneTileConfig (0, 0, 0)).1 _ _ rfl⟩

namespace Config

variable (cfg : Config)

theorem startSnap_foldl (L : List Record) (v : TileView) {op : String}
    (hop : op ∈ cfg.schema.allOps) :
    ((L.foldl cfg.tileStep v).startSnap).count op =
      (((L.filter (·.kind == .START)).getLast?).map (·.trace op)).getD (v.startSnap.count op) := by
  induction L using List.reverseRecOn with
  | nil => rfl
  | append_singleton L r ih =>
    rw [List.foldl_append, List.filter_append, List.getLast?_append]
    cases r <;> simp [tileStep, Record.kind, Record.trace, Counter.count_setEach, hop, ih]

theorem endSnap_foldl (L : List Record) (v : TileView) {op : String}
    (hop : op ∈ cfg.schema.allOps) :
    ((L.foldl cfg.tileStep v).endSnap).count op =
      (((L.filter (·.kind == .END)).getLast?).map (·.trace op)).getD (v.endSnap.count op) := by
  induction L using List.reverseRecOn with
  | nil => rfl
  | append_singleton L r ih =>
    rw [List.foldl_append, List.filter_append, List.getLast?_append]
    cases r <;> simp [tileStep, Record.kind, Record.trace, Counter.count_setEach, hop, ih]

end Config

/-- A line inside the grid: `1 ≤ y ≤ dim_y` and `0 ≤ x < dim_x`. -/
def InGrid (dimY dimX : ℕ) (row : Row) : Prop :=
  1 ≤ row "y" ∧ row "y" ≤ dimY ∧ 0 ≤ row "x" ∧ row "x" < dimX

instance (dimY dimX : ℕ) (row : Row) : Decidable (InGrid dimY dimX row) :=
  inferInstanceAs (Decidable (1 ≤ row "y" ∧ row "y" ≤ dimY ∧ 0 ≤ row "x" ∧ row "x" < dimX))

/-- The line's tag decodes to stat type `kind` with tag field `t`, and it sits at
`y = r + 1`, `x = c`. -/
def isKeyRow (kind : StatType) (t r c : ℕ) (row : Row) : Bool :=
  match CudaStatTag.new (row "tag") with
  | .ok cst => cst.statType = kind ∧ cst.tag = t ∧ row "y" = r + 1 ∧ row "x" = c
  | .error _ => false

/-- The Start and End lines of tag field `t` at `y = r + 1`, `x = c`, in order. -/
def keyRows (t r c : ℕ) (rows : List Row) : List Row :=
  rows.filter fun row => isKeyRow .START t r c row || isKeyRow .END t r c row

/-- `row[op]` of the last line, `0` when there is none. -/
def lastValue (rows : List Row) (op : String) : ℤ := (rows.getLast?.map fun row => row op).getD 0

theorem isKeyRow_eq_true {kind : StatType} {t r c : ℕ} {row : Row} :
    isKeyRow kind t r c row = true ↔ ∃ cst, CudaStatTag.new (row "tag") = .ok cst ∧
      cst.statType = kind ∧ cst.tag = t ∧ row "y" = r + 1 ∧ row "x" = c := by
  unfold isKeyRow
  cases CudaStatTag.new (row "tag") <;> simp

theorem isKeyRow_coords {kind : StatType} {t r c : ℕ} {row : Row} (h : isKeyRow kind t r c row = true) :
    row "y" = r + 1 ∧ row "x" = c :=
  let ⟨_, _, _, _, hy, hx⟩ := isKeyRow_eq_true.1 h
  ⟨hy, hx⟩

/-- A line is of one kind only. -/
theorem isKeyRow_of_ne {kind kind' : StatType} {t r c : ℕ} {row : Row}
    (h : isKeyRow kind t r c row = true) (hk : kind' ≠ kind) : isKeyRow kind' t r c row = false := by
  refine Bool.eq_false_iff.2 fun h' => hk ?_
  obtain ⟨c1, h1, rfl, -⟩ := isKeyRow_eq_true.1 h
  obtain ⟨c2, h2, rfl, -⟩ := isKeyRow_eq_true.1 h'
  rw [h1, Except.ok.injEq] at h2
  rw [h2]

namespace Config

variable (cfg : Config)

/-- For a line inside the grid, the loop's reading is the Start or End of the
tile its coordinates name, carrying the line. -/
theorem record_inGrid {row : Row} {rec : Record} (hg : InGrid cfg.manycoreDimY cfg.manycoreDimX row)
    (h : cfg.record row = .ok rec) {kind : StatType} (hk : kind ≠ .STAT) (t r c : ℕ) :
    (rec.kind == kind && rec.tile? == some (t, r, c)) = isKeyRow kind t r c row ∧
      (rec.kind ≠ .STAT → rec.trace = row) := by
  obtain ⟨-, -, -, cst, hc, hcases⟩ := cfg.record_eq_ok.1 h
  obtain ⟨hy1, hy2, hx1, hx2⟩ := hg
  simp only [isKeyRow, hc]
  rcases hcases with ⟨hs, he, rfl⟩ | ⟨⟨t', y, x⟩, hk', ⟨hs, rfl⟩ | ⟨-, he, rfl⟩⟩
  · have : cst.statType ≠ kind := by
      cases hst : cst.statType <;> cases kind <;> simp_all [CudaStatTag.isStart, CudaStatTag.isEnd]
    simp [Record.tile?, Record.kind, this]
  all_goals
    obtain ⟨rfl, hy, hx⟩ := cfg.tileIndex_eq_ok.1 hk'
    rw [pyIndex_eq_ok] at hy hx
    simp only [bsgOriginY, bsgOriginX, sub_zero] at hy hx
    simp only [CudaStatTag.isStart_eq_true, CudaStatTag.isEnd_eq_true] at *
    simp only [Record.tile?, Record.kind, Record.trace, Option.some.injEq, Prod.mk.injEq, ne_eq,
      reduceCtorEq, not_false_eq_true, implies_true, and_true]
  · rw [hs]; by_cases hkd : kind = .START <;> simp [hkd, eq_comm (a := StatType.START)]
    rw [Bool.eq_iff_iff]; simp only [beq_iff_eq, Prod.mk.injEq, Bool.and_eq_true, decide_eq_true_eq]
    omega
  · rw [he]; by_cases hkd : kind = .END <;> simp [hkd, eq_comm (a := StatType.END)]
    rw [Bool.eq_iff_iff]; simp only [beq_iff_eq, Prod.mk.injEq, Bool.and_eq_true, decide_eq_true_eq]
    omega

/-- For lines inside the grid, the records of a tile of one kind carry exactly
the lines of that kind at its coordinates, in order. -/
theorem filter_trace_eq_keyRows {rows : List Row} {recs : List Record}
    (hg : ∀ row ∈ rows, InGrid cfg.manycoreDimY cfg.manycoreDimX row)
    (h : rows.mapM cfg.record = .ok recs) {kind : StatType} (hk : kind ≠ .STAT) (t r c : ℕ) :
    (recs.filter fun rec => rec.kind == kind && rec.tile? == some (t, r, c)).map Record.trace =
      rows.filter (isKeyRow kind t r c) := by
  rw [cfg.filter_map_records h (q := isKeyRow kind t r c) (g := id), List.map_id]
  intro row hrow rec hr
  obtain ⟨h1, h2⟩ := cfg.record_inGrid (hg row hrow) hr hk t r c
  refine ⟨h1, fun hp => h2 ?_⟩
  simp only [Bool.and_eq_true, beq_iff_eq] at hp
  rw [hp.1]; exact hk

/-- For lines inside the grid, a tile's table at a schema column other than the
totals is its last End minus its last Start, clamped at `0`. -/
theorem tileStatOf_count {rows : List Row} {recs : List Record}
    (hg : ∀ row ∈ rows, InGrid cfg.manycoreDimY cfg.manycoreDimX row)
    (h : rows.mapM cfg.record = .ok recs) (t r c : ℕ) {op : String} (hop : op ∈ cfg.schema.allOps)
    (hi : op ≠ "instr_total") (hs : op ≠ "stall_total") (hm : op ≠ "miss_total") :
    (cfg.tileStatOf (recs.foldl cfg.apply .init) (t, r, c)).count op =
      max 0 (lastValue (rows.filter (isKeyRow .END t r c)) op -
        lastValue (rows.filter (isKeyRow .START t r c)) op) := by
  rw [tileStatOf, Schema.count_generateTotals_of_ne _ _ hi hs hm, Counter.count_sub,
    tileStatStart_foldl, tileStatEnd_foldl, startSnap_foldl _ _ _ hop, endSnap_foldl _ _ _ hop,
    List.filter_filter, List.filter_filter, ← cfg.filter_trace_eq_keyRows hg h (by decide) t r c,
    ← cfg.filter_trace_eq_keyRows hg h (by decide) t r c]
  simp [lastValue, List.getLast?_map, Option.map_map, TileStatsState.init, TileStatsState.tileView,
    Function.comp_def]

end Config

/-- **A tile's stat is its last End minus its last Start, clamped at `0`.** For
lines inside the grid, at every schema column other than the two totals the
header may carry, `tile_stat[t][r][c][op]` is `max 0 (E[op] - S[op])`, where `E`
and `S` are the last End and the last Start line of tag field `t` at
`y = r + 1`, `x = c` (`0` when there is none): `Counter` subtraction drops
non-positive differences. -/
theorem tile_stat_eq_clamped_delta {dimY dimX : ℕ} {header : List String} {rows : List Row}
    {p : VanillaStatsParser} {out : List Warning} (hgrid : ∀ row ∈ rows, InGrid dimY dimX row)
    (h : VanillaStatsParser.new dimY dimX header rows = .ok (p, out)) (t r c : ℕ) {op : String}
    (hop : op ∈ (parseHeader header).allOps) (hs : op ≠ "stall_total") (hm : op ≠ "miss_total") :
    (p.tileStat (t, r, c)).count op =
      max 0 (lastValue (rows.filter (isKeyRow .END t r c)) op -
        lastValue (rows.filter (isKeyRow .START t r c)) op) := by
  set cfg : Config := ⟨dimY, dimX, parseHeader header⟩
  obtain ⟨st, hst, -, -, hp, -⟩ := new_eq_ok h
  obtain ⟨recs, hrecs, rfl⟩ := cfg.loop_eq_ok.1 hst
  rw [hp]
  exact cfg.tileStatOf_count hgrid hrecs t r c hop
    (fun e => instr_total_not_mem_allOps header (e ▸ hop)) hs hm

/-- A window whose `cycle` counter goes from `5` down to `3` on a one-tile grid. -/
def decreasingWindow : List Row :=
  [rowOf [("y", 1), ("tag", 1 * 2 ^ 30), ("cycle", 5)],
   rowOf [("y", 1), ("tag", 2 * 2 ^ 30), ("cycle", 3)]]

theorem tile_stat_on_decreasing_window :
    ∃ p out, VanillaStatsParser.new 1 1 ["x", "y", "tag", "cycle"] decreasingWindow = .ok (p, out) ∧
      (p.tileStat (0, 0, 0)).count "cycle" =
        max 0 (lastValue (decreasingWindow.filter (isKeyRow .END 0 0 0)) "cycle" -
          lastValue (decreasingWindow.filter (isKeyRow .START 0 0 0)) "cycle") :=
  ⟨_, _, rfl, @tile_stat_eq_clamped_delta 1 1 ["x", "y", "tag", "cycle"] decreasingWindow _ _
    (by decide) rfl 0 0 0 "cycle" (by decide) (by decide) (by decide)⟩

/-- **The difference is not passed through when negative**: the window above
ends below its Start, `3 - 5 = -2`, and `tile_stat` reads `0`. -/
theorem tile_stat_drops_negative_delta :
    ∃ p out, VanillaStatsParser.new 1 1 ["x", "y", "tag", "cycle"] decreasingWindow = .ok (p, out) ∧
      (p.tileStat (0, 0, 0)).count "cycle" = 0 ∧ (p.tileStat (0, 0, 0)).count "cycle" ≠ 3 - 5 :=
  ⟨_, _, rfl, rfl, by decide⟩

/-- **A line at `y = 0` lands on the last row.** On a one-tile grid, a Start and an
End of tag `0` at `y = 0` fill tile `(0, 0)` (`y - 1 = -1` reads the last row),
while the lines at `y = 1`, `x = 0` (there are none) leave it empty. -/
theorem offgrid_lands_on_last_row :
    ∃ p out p' out',
      VanillaStatsParser.new 1 1 ["x", "y", "tag", "global_ctr"]
        [rowOf [("tag", 1 * 2 ^ 30), ("global_ctr", 0)],
         rowOf [("tag", 2 * 2 ^ 30), ("global_ctr", 10)]] = .ok (p, out) ∧
      VanillaStatsParser.new 1 1 ["x", "y", "tag", "global_ctr"]
        ([rowOf [("tag", 1 * 2 ^ 30), ("global_ctr", 0)],
          rowOf [("tag", 2 * 2 ^ 30), ("global_ctr", 10)]].filter
          fun row => row "y" = 1 ∧ row "x" = 0) = .ok (p', out') ∧
      (p.tileStat (0, 0, 0)).count "global_ctr" = 10 ∧
      (p'.tileStat (0, 0, 0)).count "global_ctr" = 0 :=
  ⟨_, _, _, _, rfl, rfl, rfl, rfl⟩

end VanillaStats
