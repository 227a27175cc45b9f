import VanillaStats.Proof.Tile
import Mathlib.Data.Finset.Card
import Mathlib.Data.Finset.Option

/-!
# Work-group tables and counts

The loop adds every Start and End line of work group `(tag, tg_id)` into that
group's two accumulators, whatever tile the line names, and counts the group in
`num_tile_groups[tag]` the first time its Start accumulator is written. After the
loop only the ids below that count get a table.

* `groupView_foldl`: a group's accumulators are the fold of its own records.
* `groupCountInv_foldl`: along every run, a group's Start accumulator is non-empty
  exactly when one of its Starts has been read, and `num_tile_groups[t]` is the
  number of such groups of tag `t`.
* `num_tile_groups_eq_distinct_ids`: so `num_tile_groups[t]` is the number of
  distinct work-group ids of the Start lines of tag `t`.
* `num_tile_groups_le_max`: and so at most `max_tile_groups`, `0` past
  `max_tags`: no loop over the work groups subscripts a table out of range.
* `num_tags_eq_zero`: `num_tags` is never incremented.
* `tile_group_stat_eq_clamped_sum`: `tile_group_stat[t][g]` at a column is the
  difference of the summed End and Start lines of group `(t, g)`, each line added
  once per listing of the column and the result clamped at `0`, for
  `g < num_tile_groups[t]`; beyond, it is `0`.
* `sparse_group_id_reads_zero`: a work group numbered `1` with no group `0` gets no
  table.
-/

namespace VanillaStats

/-- The line decodes to stat type `kind`, tag field `t` and work-group id `i`. -/
def isGroupRow (kind : StatType) (t i : ℕ) (row : Row) : Bool :=
  match CudaStatTag.new (row "tag") with
  | .ok cst => cst.statType = kind ∧ cst.tag = t ∧ cst.tgId = i
  | .error _ => false

/-- The work-group id of a Start line of tag field `t`. -/
def startId? (t : ℕ) (row : Row) : Option ℕ :=
  match CudaStatTag.new (row "tag") with
  | .ok cst => if cst.statType = .START ∧ cst.tag = t then some cst.tgId else none
  | .error _ => none

/-- `row[op]` summed over the lines. -/
def columnSum (rows : List Row) (op : String) : ℤ := (rows.map fun row => row op).sum

/-- The tags with at least one Start line: what `num_tags` is meant to count. -/
def startedTags (rows : List Row) : List ℕ :=
  (List.range maxTags).filter fun t => rows.any fun row => (startId? t row).isSome

/-- The work-group id of a Start record of tag field `t`. -/
def Record.startId? (t : ℕ) : Record → Option ℕ
  | .startAt _ g _ => if g.1 = t then some g.2 else none
  | _ => none

/-- One work group's part of the loop state. -/
structure GroupView where
  startAcc : Counter
  endAcc : Counter

/-- Group `g`'s part of `st`. -/
def TileStatsState.groupView (st : TileStatsState) (g : GroupKey) : GroupView :=
  ⟨st.tileGroupStatStart g, st.tileGroupStatEnd g⟩

/-- The invariant of the group counts, for the sets `ids t` of the work-group ids
whose Starts of tag `t` have been read. -/
structure GroupCountInv (st : TileStatsState) (ids : ℕ → Finset ℕ) : Prop where
  started : ∀ t i, (st.tileGroupStatStart (t, i)).isEmpty = false ↔ i ∈ ids t
  count_eq : ∀ t, st.numTileGroups t = (ids t).card

theorem maxTileGroups_ne_zero : maxTileGroups ≠ 0 := by decide

namespace Config

variable (cfg : Config)

/-- What a record of the group does to its accumulators. -/
def groupStep (v : GroupView) : Record → GroupView
  | .stat => v
  | .startAt _ _ trace => ⟨v.startAcc.addEach cfg.schema.allOps trace, v.endAcc⟩
  | .endAt _ _ trace _ _ => ⟨v.startAcc, v.endAcc.addEach cfg.schema.allOps trace⟩

theorem groupView_apply (st : TileStatsState) (r : Record) (g : GroupKey) :
    (cfg.apply st r).groupView g =
      if r.group? == some g then cfg.groupStep (st.groupView g) r else st.groupView g := by
  cases r with
  | stat => rfl
  | startAt k g' trace =>
    by_cases hg : g = g' <;> simp [apply, groupStep, Record.group?, TileStatsState.groupView, hg, Ne.symm]
  | endAt k g' trace x y =>
    by_cases hg : g = g' <;> simp [apply, groupStep, Record.group?, TileStatsState.groupView, hg, Ne.symm]

/-- **A work group is the fold of its own records.** -/
theorem groupView_foldl (recs : List Record) (st : TileStatsState) (g : GroupKey) :
    (recs.foldl cfg.apply st).groupView g =
      (recs.filter (·.group? == some g)).foldl cfg.groupStep (st.groupView g) := by
  induction recs generalizing st with
  | nil => rfl
  | cons r recs ih =>
    rw [List.foldl_cons, ih, groupView_apply, List.filter_cons]
    split_ifs <;> rfl

/-- An accumulator adds each of its records once per listing of the column. -/
theorem groupStep_foldl_count (L : List Record) (v : GroupView) (op : String) :
    ((L.foldl cfg.groupStep v).startAcc).count op = v.startAcc.count op +
        cfg.schema.allOps.count op * columnSum ((L.filter (·.kind == .START)).map Record.trace) op ∧
      ((L.foldl cfg.groupStep v).endAcc).count op = v.endAcc.count op +
        cfg.schema.allOps.count op * columnSum ((L.filter (·.kind == .END)).map Record.trace) op := by
  induction L generalizing v with
  | nil => simp [columnSum]
  | cons r L ih =>
    obtain ⟨ih1, ih2⟩ := ih (cfg.groupStep v r)
    rw [List.foldl_cons, ih1, ih2]
    cases r <;> simp only [groupStep, Counter.count_addEach, List.filter_cons, Record.kind,
      Record.trace, columnSum, beq_self_eq_true, if_true, List.map_cons, List.sum_cons] <;>
      constructor <;> first | rfl | (simp; ring)

/-- For every line, the loop's reading has the line's group and carries the line. -/
theorem record_group {row : Row} {rec : Record} (h : cfg.record row = .ok rec) {kind : StatType}
    (hk : kind ≠ .STAT) (t i : ℕ) :
    (rec.kind == kind && rec.group? == some (t, i)) = isGroupRow kind t i row ∧
      (rec.kind ≠ .STAT → rec.trace = row) ∧ rec.startId? t = startId? t row := by
  obtain ⟨-, -, -, cst, hc, hcases⟩ := cfg.record_eq_ok.1 h
  simp only [isGroupRow, startId?, hc]
  rcases hcases with ⟨hs, he, rfl⟩ | ⟨k, -, ⟨hs, rfl⟩ | ⟨-, he, rfl⟩⟩
  · have hst : cst.statType = .STAT := by
      cases hst : cst.statType <;> simp_all [CudaStatTag.isStart, CudaStatTag.isEnd]
    simp [Record.kind, Record.group?, Record.startId?, hst, Ne.symm hk]
  · rw [CudaStatTag.isStart_eq_true] at hs
    refine ⟨?_, fun _ => rfl, by simp [Record.startId?, hs]⟩
    rw [Bool.eq_iff_iff]
    simp [Record.kind, Record.group?, hs]
  · rw [CudaStatTag.isEnd_eq_true] at he
    refine ⟨?_, fun _ => rfl, by simp [Record.startId?, he]⟩
    rw [Bool.eq_iff_iff]
    simp [Record.kind, Record.group?, he]

/-- The records of a group of one kind carry exactly the group's lines of that
kind, in order. -/
theorem filter_trace_eq_groupRows {rows : List Row} {recs : List Record}
    (h : rows.mapM cfg.record = .ok recs) {kind : StatType} (hk : kind ≠ .STAT) (t i : ℕ) :
    (recs.filter fun rec => rec.kind == kind && rec.group? == some (t, i)).map Record.trace =
      rows.filter (isGroupRow kind t i) := by
  rw [cfg.filter_map_records h (q := isGroupRow kind t i) (g := id), List.map_id]
  intro row _ rec hr
  obtain ⟨h1, h2, -⟩ := cfg.record_group hr hk t i
  refine ⟨h1, fun hp => h2 ?_⟩
  simp only [Bool.and_eq_true, beq_iff_eq] at hp
  rw [hp.1]; exact hk

theorem numTags_foldl (L : List Record) (st : TileStatsState) :
    (L.foldl cfg.apply st).numTags = st.numTags := by
  induction L generalizing st with
  | nil => rfl
  | cons r L ih =>
    rw [List.foldl_cons, ih]
    cases r <;> simp [apply, maxTileGroups_ne_zero]

theorem groupCountInv_init : GroupCountInv .init fun _ => ∅ :=
  ⟨fun _ _ => by simp [TileStatsState.init], fun _ => rfl⟩

/-- A Start makes its group's accumulator non-empty and, the first time, counts
the group; nothing else touches either. -/
theorem groupCountInv_apply (hops : cfg.schema.allOps ≠ []) {st : TileStatsState}
    {ids : ℕ → Finset ℕ} (h : GroupCountInv st ids) (r : Record) :
    GroupCountInv (cfg.apply st r) fun t => ids t ∪ (r.startId? t).toFinset := by
  cases r with
  | stat => simpa [Record.startId?] using h
  | endAt =>
    simp only [Record.startId?, Option.toFinset_none, Finset.union_empty]
    exact ⟨h.started, h.count_eq⟩
  | startAt k g trace =>
    obtain ⟨gt, gi⟩ := g
    have hne : cfg.schema.allOps.isEmpty = false :=
      Bool.eq_false_iff.2 fun he => hops (List.isEmpty_iff.1 he)
    constructor
    · intro t i
      by_cases hg : (t, i) = (gt, gi)
      · obtain ⟨rfl, rfl⟩ := Prod.mk.inj hg
        simp [apply, Record.startId?, Counter.isEmpty_addEach, hne]
      · have hne' : ¬(gt = t ∧ gi = i) := fun e => hg (by rw [e.1, e.2])
        simp only [apply, Function.update_noteq hg, h.started, Record.startId?, Finset.mem_union]
        split_ifs with ht
        · simp only [ht, true_and] at hne'
          simp [Ne.symm hne']
        · simp
    · intro t
      have hs := h.started gt gi
      simp only [apply, Record.startId?]
      by_cases he : (st.tileGroupStatStart (gt, gi)).isEmpty = true
      · have hni : gi ∉ ids gt := fun hm => by simp [hs.2 hm] at he
        simp only [he, if_true]
        by_cases ht : t = gt
        · subst ht
          simp only [Function.update_same, h.count_eq, reduceIte, Option.toFinset_some]
          rw [Finset.union_comm, ← Finset.insert_eq, Finset.card_insert_of_not_mem hni]
        · simp [Function.update_noteq ht, h.count_eq, Ne.symm ht]
      · have hm : gi ∈ ids gt := hs.1 (by simpa using he)
        simp only [he, if_false, Bool.false_eq_true, h.count_eq]
        split_ifs with ht
        · subst ht
          rw [Option.toFinset_some, Finset.union_comm, ← Finset.insert_eq, Finset.insert_eq_of_mem hm]
        · simp

/-- **The group counts along every run.** -/
theorem groupCountInv_foldl (L : List Record) (hops : L ≠ [] → cfg.schema.allOps ≠ []) :
    GroupCountInv (L.foldl cfg.apply .init) fun t => (L.filterMap (Record.startId? t)).toFinset := by
  induction L using List.reverseRecOn with
  | nil => exact groupCountInv_init
  | append_singleton L r ih =>
    have hne := hops (by simp)
    have hids : (fun t => ((L ++ [r]).filterMap (Record.startId? t)).toFinset) =
        fun t => (L.filterMap (Record.startId? t)).toFinset ∪ (r.startId? t).toFinset := by
      funext t
      rw [List.filterMap_append, List.toFinset_append]
      rcases hr : r.startId? t with _ | j <;> simp [hr]
    rw [List.foldl_append, List.foldl_cons, List.foldl_nil, hids]
    exact cfg.groupCountInv_apply hne (ih fun _ => hne) r

/-- The loop counts the distinct work-group ids of each tag's Start lines. -/
theorem numTileGroups_foldl {rows : List Row} {recs : List Record}
    (h : rows.mapM cfg.record = .ok recs) (t : ℕ) :
    (recs.foldl cfg.apply .init).numTileGroups t = (rows.filterMap (startId? t)).toFinset.card := by
  have hops : recs ≠ [] → cfg.schema.allOps ≠ [] := fun hne => by
    obtain ⟨rec, hrec⟩ := List.exists_mem_of_ne_nil recs hne
    obtain ⟨row, -, hr⟩ := cfg.mem_of_mapM h hrec
    exact List.ne_nil_of_mem (cfg.record_eq_ok.1 hr).1
  rw [(cfg.groupCountInv_foldl recs hops).count_eq,
    cfg.filterMap_records h fun row _ rec hr =>
      (cfg.record_group hr (show StatType.START ≠ .STAT by decide) t 0).2.2]

/-- A work group's table at a column other than the totals: the clamped
difference of its summed End and Start lines, each added once per listing of the
column, for ids below the count, and `0` beyond. -/
theorem tileGroupStatOf_count {rows : List Row} {recs : List Record}
    (h : rows.mapM cfg.record = .ok recs) (t i : ℕ) {op : String}
    (hi : op ≠ "instr_total") (hs : op ≠ "stall_total") (hm : op ≠ "miss_total") :
    (cfg.tileGroupStatOf (recs.foldl cfg.apply .init) (t, i)).count op =
      if i < (recs.foldl cfg.apply .init).numTileGroups t then
        max 0 (cfg.schema.allOps.count op *
          (columnSum (rows.filter (isGroupRow .END t i)) op -
            columnSum (rows.filter (isGroupRow .START t i)) op))
      else 0 := by
  rw [tileGroupStatOf]
  split_ifs with hlt
  · have hv := cfg.groupView_foldl recs .init (t, i)
    obtain ⟨hS, hE⟩ := cfg.groupStep_foldl_count (recs.filter (·.group? == some (t, i)))
      (TileStatsState.init.groupView (t, i)) op
    rw [← hv, List.filter_filter, cfg.filter_trace_eq_groupRows h (by decide)] at hS
    rw [← hv, List.filter_filter, cfg.filter_trace_eq_groupRows h (by decide)] at hE
    rw [Schema.count_generateTotals_of_ne _ _ hi hs hm, Counter.count_sub]
    simp only [TileStatsState.groupView] at hS hE
    rw [hS, hE, mul_sub]
    simp only [TileStatsState.init, Counter.count_empty, zero_add]
  · rfl

end Config

/-- **`num_tile_groups[t]` is the number of distinct work-group ids of the Start
lines of tag `t`**, whatever the ids are, on every trace the constructor reads. -/
theorem num_tile_groups_eq_distinct_ids {dimY dimX : ℕ} {header : List String} {rows : List Row}
    {p : VanillaStatsParser} {out : List Warning}
    (h : VanillaStatsParser.new dimY dimX header rows = .ok (p, out)) (t : ℕ) :
    p.numTileGroups t = (rows.filterMap (startId? t)).toFinset.card := by
  set cfg : Config := ⟨dimY, dimX, parseHeader header⟩
  obtain ⟨st, hst, -, hng, -⟩ := new_eq_ok h
  obtain ⟨recs, hrecs, rfl⟩ := cfg.loop_eq_ok.1 hst
  rw [hng, cfg.numTileGroups_foldl hrecs]

/-- A Start and an End of tag `0` in work group `1` alone, `global_ctr` going from
`0` to `10`. -/
def sparseGroupWindow : List Row :=
  [rowOf [("y", 1), ("tag", 1 * 2 ^ 30 + 1 * 2 ^ 4), ("global_ctr", 0)],
   rowOf [("y", 1), ("tag", 2 * 2 ^ 30 + 1 * 2 ^ 4), ("global_ctr", 10)]]

theorem num_tile_groups_of_sparse_window :
    ∃ p out, VanillaStatsParser.new 1 1 ["x", "y", "tag", "global_ctr"] sparseGroupWindow =
        .ok (p, out) ∧
      p.numTileGroups 0 = (sparseGroupWindow.filterMap (startId? 0)).toFinset.card :=
  ⟨_, _, rfl, @num_tile_groups_eq_distinct_ids 1 1 ["x", "y", "tag", "global_ctr"] sparseGroupWindow
    _ _ rfl 0⟩

/-- A Start line's work-group id and tag field are within the tables' widths. -/
theorem startId?_lt {t i : ℕ} {row : Row} (h : startId? t row = some i) :
    i < maxTileGroups ∧ t < maxTags := by
  unfold startId? at h
  split at h
  · next cst _ =>
    split_ifs at h with hs
    cases h
    exact ⟨CudaStatTag.tgId_lt cst, hs.2 ▸ CudaStatTag.tag_lt cst⟩
  · cases h

/-- **The work-group loops stay inside the tables.** On every trace the
constructor reads, `num_tile_groups[t]` is at most `max_tile_groups`, the length
of each tag's list of work-group tables, and it is `0` for every `t` past
`max_tags`: the subtraction and totals loops over `range(num_tile_groups[tag])`
and the per-tile-group report over `range(max(num_tile_groups))` never subscript
`tile_group_stat[tag]` out of range. -/
theorem num_tile_groups_le_max {dimY dimX : ℕ} {header : List String} {rows : List Row}
    {p : VanillaStatsParser} {out : List Warning}
    (h : VanillaStatsParser.new dimY dimX header rows = .ok (p, out)) (t : ℕ) :
    p.numTileGroups t ≤ maxTileGroups ∧ (maxTags ≤ t → p.numTileGroups t = 0) := by
  set cfg : Config := ⟨dimY, dimX, parseHeader header⟩
  obtain ⟨st, hst, -, hng, -⟩ := new_eq_ok h
  obtain ⟨recs, hrecs, rfl⟩ := cfg.loop_eq_ok.1 hst
  rw [hng, cfg.numTileGroups_foldl hrecs]
  refine ⟨(Finset.card_le_card fun i hi => ?_).trans (Finset.card_range maxTileGroups).le,
    fun ht => ?_⟩
  · obtain ⟨row, -, hrow⟩ := List.mem_filterMap.1 (List.mem_toFinset.1 hi)
    exact Finset.mem_range.2 (startId?_lt hrow).1
  · rw [Finset.card_eq_zero, List.toFinset_eq_empty_iff, List.filterMap_eq_nil_iff]
    intro row _
    cases hrow : startId? t row with
    | none => rfl
    | some i => exact absurd (startId?_lt hrow).2 (by omega)

theorem num_tile_groups_of_sparse_window_le_max :
    ∃ p out, VanillaStatsParser.new 1 1 ["x", "y", "tag", "global_ctr"] sparseGroupWindow =
        .ok (p, out) ∧
      p.numTileGroups 0 ≤ maxTileGroups ∧ (maxTags ≤ 0 → p.numTileGroups 0 = 0) :=
  ⟨_, _, rfl, @num_tile_groups_le_max 1 1 ["x", "y", "tag", "global_ctr"] sparseGroupWindow
    _ _ rfl 0⟩

/-- **`num_tags` stays `0`.** The first-time test reads `not
tile_group_stat_start[cst.tag]`, a list of `max_tile_groups` counters, which is
never empty, so the count is never incremented. -/
theorem num_tags_eq_zero {dimY dimX : ℕ} {header : List String} {rows : List Row}
    {p : VanillaStatsParser} {out : List Warning}
    (h : VanillaStatsParser.new dimY dimX header rows = .ok (p, out)) : p.numTags = 0 := by
  obtain ⟨st, hst, hnt, -⟩ := new_eq_ok h
  obtain ⟨recs, -, rfl⟩ := (Config.loop_eq_ok _).1 hst
  rw [hnt, Config.numTags_foldl]
  rfl

/-- One Start line of tag `0`. -/
def oneStart : List Row := [rowOf [("y", 1), ("tag", 1 * 2 ^ 30)]]

theorem num_tags_of_one_start :
    ∃ p out, VanillaStatsParser.new 1 1 ["x", "y", "tag"] oneStart = .ok (p, out) ∧ p.numTags = 0 :=
  ⟨_, _, rfl, @num_tags_eq_zero 1 1 ["x", "y", "tag"] oneStart _ _ rfl⟩

/-- **A trace with a Start of one tag reports no tag.** -/
theorem one_started_tag_counts_zero :
    ∃ p out, VanillaStatsParser.new 1 1 ["x", "y", "tag"] oneStart = .ok (p, out) ∧
      startedTags oneStart = [0] ∧ p.numTags = 0 :=
  ⟨_, _, rfl, rfl, rfl⟩

/-- **A work group's table is its clamped End-minus-Start sum.** At every column
other than the three totals, `tile_group_stat[t][i]` reads, for
`i < num_tile_groups[t]`, `max 0 (n * (ΣE - ΣS))`, where `ΣE` and `ΣS` sum the
column over all End and Start lines of tag field `t` and work-group id `i`, and
`n` is the number of times the header lists the column (each line is added once
per listing); for `i ≥ num_tile_groups[t]` it reads `0`. -/
theorem tile_group_stat_eq_clamped_sum {dimY dimX : ℕ} {header : List String} {rows : List Row}
    {p : VanillaStatsParser} {out : List Warning}
    (h : VanillaStatsParser.new dimY dimX header rows = .ok (p, out)) (t i : ℕ) {op : String}
    (hi : op ≠ "instr_total") (hs : op ≠ "stall_total") (hm : op ≠ "miss_total") :
    (p.tileGroupStat (t, i)).count op =
      if i < p.numTileGroups t then
        max 0 ((parseHeader header).allOps.count op *
          (columnSum (rows.filter (isGroupRow .END t i)) op -
            columnSum (rows.filter (isGroupRow .START t i)) op))
      else 0 := by
  set cfg : Config := ⟨dimY, dimX, parseHeader header⟩
  obtain ⟨st, hst, -, hng, -, hg, -⟩ := new_eq_ok h
  obtain ⟨recs, hrecs, rfl⟩ := cfg.loop_eq_ok.1 hst
  rw [hg, hng]
  exact cfg.tileGroupStatOf_count hrecs t i hi hs hm

/-- **An id beyond the count gets no table.** Work group `1` of tag `0` runs a
window whose `global_ctr` rises by `10`, but with no group `0` the count is `1`,
and `tile_group_stat[0][1]` stays empty. -/
theorem sparse_group_id_reads_zero :
    ∃ p out, VanillaStatsParser.new 1 1 ["x", "y", "tag", "global_ctr"] sparseGroupWindow =
        .ok (p, out) ∧
      columnSum (sparseGroupWindow.filter (isGroupRow .END 0 1)) "global_ctr" -
        columnSum (sparseGroupWindow.filter (isGroupRow .START 0 1)) "global_ctr" = 10 ∧
      p.numTileGroups 0 = 1 ∧ (p.tileGroupStat (0, 1)).count "global_ctr" = 0 :=
  ⟨_, _, rfl, rfl, rfl, rfl⟩

theorem tile_group_stat_of_sparse_window :
    ∃ p out, VanillaStatsParser.new 1 1 ["x", "y", "tag", "global_ctr"] sparseGroupWindow =
        .ok (p, out) ∧
      (p.tileGroupStat (0, 1)).count "global_ctr" =
        if 1 < p.numTileGroups 0 then
          max 0 ((parseHeader ["x", "y", "tag", "global_ctr"]).allOps.count "global_ctr" *
            (columnSum (sparseGroupWindow.filter (isGroupRow .END 0 1)) "global_ctr" -
              columnSum (sparseGroupWindow.filter (isGroupRow .START 0 1)) "global_ctr"))
        else 0 :=
  ⟨_, _, rfl, @tile_group_stat_eq_clamped_sum 1 1 ["x", "y", "tag", "global_ctr"] sparseGroupWindow
    _ _ rfl 0 1 "global_ctr" (by decide) (by decide) (by decide)⟩

end VanillaStats
