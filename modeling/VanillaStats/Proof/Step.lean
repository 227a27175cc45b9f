import VanillaStats.Parser

/-!
# What one trace line does to the loop

`Config.record` reads a line as the loop body does and names what it is: a Stat
line, or a Start or End at a tile index and tile group. The body is that reading
followed by a pure update `Config.apply` (`step_eq`), so the loop fails exactly
when some line cannot be read and otherwise is a plain fold of the updates
(`loop_eq_ok`). Every later proof works on that fold.

* `loop_eq_ok`: the loop succeeds iff every line is read, and ends in
  `recs.foldl apply init`.
* `loop_filter`: the loop also succeeds on any sublist picked by a test on the
  lines' readings, with the fold of the picked records.
-/

namespace VanillaStats

/-- A trace line as the loop reads it. -/
inductive Record where
  | stat
  | startAt (k : TileKey) (g : GroupKey) (trace : Row)
  | endAt (k : TileKey) (g : GroupKey) (trace : Row) (relativeX relativeY : ℤ)

/-- The tile index a Start or End writes. -/
def Record.tile? : Record → Option TileKey
  | .stat => none
  | .startAt k _ _ => some k
  | .endAt k _ _ _ _ => some k

/-- The stat type a reading comes from. -/
def Record.kind : Record → StatType
  | .stat => .STAT
  | .startAt .. => .START
  | .endAt .. => .END

/-- The line a Start or End was read from. -/
def Record.trace : Record → Row
  | .stat => fun _ => 0
  | .startAt _ _ trace => trace
  | .endAt _ _ trace _ _ => trace

/-- The tile group a Start or End writes. -/
def Record.group? : Record → Option GroupKey
  | .stat => none
  | .startAt _ g _ => some g
  | .endAt _ g _ _ _ => some g

namespace Config

variable (cfg : Config)

/-- The reading of a line that the loop body makes before it writes anything. -/
def record (trace : Row) : Except PyError Record := do
  let y ← cfg.traceGet trace "y"
  let x ← cfg.traceGet trace "x"
  let cst ← CudaStatTag.new (← cfg.traceGet trace "tag")
  if cst.isStart then
    let k ← cfg.tileIndex cst.tag (y - bsgOriginY) (x - bsgOriginX)
    pure (.startAt k (cst.tag, cst.tgId) trace)
  else if cst.isEnd then
    let k ← cfg.tileIndex cst.tag (y - bsgOriginY) (x - bsgOriginX)
    pure (.endAt k (cst.tag, cst.tgId) trace (x - bsgOriginX) (y - bsgOriginY))
  else pure .stat

theorem tileIndex_eq_ok {tag : ℕ} {ry rx : ℤ} {k : TileKey} :
    cfg.tileIndex tag ry rx = .ok k ↔
      k.1 = tag ∧ pyIndex cfg.manycoreDimY ry = .ok k.2.1 ∧ pyIndex cfg.manycoreDimX rx = .ok k.2.2 := by
  obtain ⟨t, y, x⟩ := k
  simp only [tileIndex, bind_eq_ok, pure, Except.pure, Except.ok.injEq, Prod.mk.injEq]
  constructor
  · rintro ⟨y', hy, x', hx, rfl, rfl, rfl⟩; exact ⟨rfl, hy, hx⟩
  · rintro ⟨rfl, hy, hx⟩; exact ⟨y, hy, x, hx, rfl, rfl, rfl⟩

/-- **What a line is read as**: the three columns are in `all_ops`, the tag decodes,
and a Start or End reaches its tile through `pyIndex`. -/
theorem record_eq_ok {trace : Row} {rec : Record} :
    cfg.record trace = .ok rec ↔ "y" ∈ cfg.schema.allOps ∧ "x" ∈ cfg.schema.allOps ∧
      "tag" ∈ cfg.schema.allOps ∧ ∃ cst, CudaStatTag.new (trace "tag") = .ok cst ∧
        (cst.isStart = false ∧ cst.isEnd = false ∧ .stat = rec ∨
         ∃ k, cfg.tileIndex cst.tag (trace "y" - bsgOriginY) (trace "x" - bsgOriginX) = .ok k ∧
          (cst.isStart = true ∧ .startAt k (cst.tag, cst.tgId) trace = rec ∨
           cst.isStart = false ∧ cst.isEnd = true ∧
             .endAt k (cst.tag, cst.tgId) trace (trace "x" - bsgOriginX) (trace "y" - bsgOriginY) = rec)) := by
  unfold record traceGet
  by_cases hy : "y" ∈ cfg.schema.allOps <;> by_cases hx : "x" ∈ cfg.schema.allOps <;>
    by_cases ht : "tag" ∈ cfg.schema.allOps <;>
    simp only [hy, hx, ht, if_true, if_false, bind_eq_ok, reduceCtorEq, false_and, exists_false,
      true_and, Except.ok.injEq, exists_eq_left', false_iff, not_true, not_false_eq_true, and_false]
  refine exists_congr fun cst => and_congr_right fun _ => ?_
  cases cst.isStart <;> cases cst.isEnd <;> simp [pure, Except.pure, bind_eq_ok]

/-- The writes of the loop body for a line read as `r`. -/
def apply (st : TileStatsState) : Record → TileStatsState
  | .stat => st
  | .startAt k g trace =>
    { st with
      tagCredits := Function.update st.tagCredits k (st.tagCredits k + 1)
      numTags := if maxTileGroups = 0 then st.numTags + 1 else st.numTags
      numTileGroups := if (st.tileGroupStatStart g).isEmpty then
          Function.update st.numTileGroups g.1 (st.numTileGroups g.1 + 1)
        else st.numTileGroups
      tileStatStart := Function.update st.tileStatStart k
        ((st.tileStatStart k).setEach cfg.schema.allOps trace)
      tileGroupStatStart := Function.update st.tileGroupStatStart g
        ((st.tileGroupStatStart g).addEach cfg.schema.allOps trace) }
  | .endAt k g trace relativeX relativeY =>
    { st with
      tagCredits := Function.update st.tagCredits k (st.tagCredits k - 1)
      out := if st.tagCredits k - 1 < 0 then st.out ++ [.missingStart g.1 relativeX relativeY]
        else st.out
      tileStatEnd := Function.update st.tileStatEnd k
        ((st.tileStatEnd k).setEach cfg.schema.allOps trace)
      tileGroupStatEnd := Function.update st.tileGroupStatEnd g
        ((st.tileGroupStatEnd g).addEach cfg.schema.allOps trace) }

/-- **The loop body is a reading followed by a pure update.** -/
theorem step_eq (st : TileStatsState) (trace : Row) :
    cfg.generateTileStatsStep st trace = (cfg.record trace).map (cfg.apply st) := by
  unfold generateTileStatsStep record
  rcases cfg.traceGet trace "y" with _ | y; · rfl
  rcases cfg.traceGet trace "x" with _ | x; · rfl
  rcases cfg.traceGet trace "tag" with _ | t; · rfl
  dsimp only [bind, Except.bind]
  rcases CudaStatTag.new t with _ | cst; · rfl
  by_cases hs : cst.isStart = true <;> by_cases he : cst.isEnd = true <;>
    simp only [hs, he, if_true, if_false, Bool.false_eq_true] <;>
    first | rfl | (rcases cfg.tileIndex cst.tag (y - bsgOriginY) (x - bsgOriginX) with _ | k <;> rfl)

theorem foldlM_eq_ok {rows : List Row} {s0 st : TileStatsState} :
    rows.foldlM cfg.generateTileStatsStep s0 = .ok st ↔
      ∃ recs, rows.mapM cfg.record = .ok recs ∧ st = recs.foldl cfg.apply s0 := by
  induction rows generalizing s0 with
  | nil => rw [List.foldlM_nil, List.mapM_nil]; simp [pure, Except.pure, eq_comm]
  | cons row rows ih =>
    simp only [List.foldlM_cons, List.mapM_cons, bind_eq_ok, step_eq, pure, Except.pure,
      Except.ok.injEq]
    constructor
    · rintro ⟨s1, hs1, hrest⟩
      rcases hr : cfg.record row with e | r
      · simp [hr, Except.map] at hs1
      · simp only [hr, Except.map, Except.ok.injEq] at hs1
        obtain ⟨recs, hrecs, rfl⟩ := ih.1 hrest
        exact ⟨r :: recs, ⟨r, rfl, recs, hrecs, rfl⟩, by rw [List.foldl_cons, hs1]⟩
    · rintro ⟨_, ⟨r, hr, recs, hrecs, rfl⟩, rfl⟩
      exact ⟨cfg.apply s0 r, by simp [hr, Except.map], ih.2 ⟨recs, hrecs, rfl⟩⟩

/-- **The loop is a fold of the updates**, and fails only by a line it cannot read. -/
theorem loop_eq_ok {rows : List Row} {st : TileStatsState} :
    cfg.generateTileStatsLoop rows = .ok st ↔
      ∃ recs, rows.mapM cfg.record = .ok recs ∧ st = recs.foldl cfg.apply .init :=
  cfg.foldlM_eq_ok

theorem mapM_filter {rows : List Row} {recs : List Record} (h : rows.mapM cfg.record = .ok recs)
    (p : Record → Bool) :
    (rows.filter fun row => match cfg.record row with
      | .ok r => p r
      | .error _ => false).mapM cfg.record = .ok (recs.filter p) := by
  induction rows generalizing recs with
  | nil => rw [List.mapM_nil] at h; cases h; rfl
  | cons row rows ih =>
    simp only [List.mapM_cons, bind_eq_ok, pure, Except.pure, Except.ok.injEq] at h
    obtain ⟨r, hr, rs, hrs, rfl⟩ := h
    rw [List.filter_cons, List.filter_cons, hr]
    cases hp : p r
    · simpa [hp] using ih hrs
    · simp only [hp, if_true, List.mapM_cons, hr, ih hrs, List.filter_cons]; rfl

/-- Filtering the readings and filtering the lines agree when the two tests, and
the two maps, agree on every line and its reading. -/
theorem filter_map_records {rows : List Row} {recs : List Record}
    (h : rows.mapM cfg.record = .ok recs) {p : Record → Bool} {q : Row → Bool} {β : Type}
    {f : Record → β} {g : Row → β}
    (hpq : ∀ row ∈ rows, ∀ rec, cfg.record row = .ok rec → p rec = q row ∧ (p rec = true → f rec = g row)) :
    (recs.filter p).map f = (rows.filter q).map g := by
  induction rows generalizing recs with
  | nil => rw [List.mapM_nil] at h; cases h; rfl
  | cons row rows ih =>
    simp only [List.mapM_cons, bind_eq_ok, pure, Except.pure, Except.ok.injEq] at h
    obtain ⟨rec, hr, rs, hrs, rfl⟩ := h
    obtain ⟨h1, h2⟩ := hpq row (List.mem_cons_self _ _) rec hr
    have ih' := ih hrs fun row' hrow' => hpq row' (List.mem_cons_of_mem _ hrow')
    rw [List.filter_cons, List.filter_cons, ← h1]
    split_ifs with hp
    · rw [List.map_cons, List.map_cons, h2 hp, ih']
    · exact ih'

theorem filterMap_records {rows : List Row} {recs : List Record}
    (h : rows.mapM cfg.record = .ok recs) {β : Type} {f : Record → Option β} {g : Row → Option β}
    (hfg : ∀ row ∈ rows, ∀ rec, cfg.record row = .ok rec → f rec = g row) :
    recs.filterMap f = rows.filterMap g := by
  induction rows generalizing recs with
  | nil => rw [List.mapM_nil] at h; cases h; rfl
  | cons row rows ih =>
    simp only [List.mapM_cons, bind_eq_ok, pure, Except.pure, Except.ok.injEq] at h
    obtain ⟨rec, hr, rs, hrs, rfl⟩ := h
    rw [List.filterMap_cons, List.filterMap_cons, hfg row (List.mem_cons_self _ _) rec hr,
      ih hrs fun row' hrow' => hfg row' (List.mem_cons_of_mem _ hrow')]

theorem mem_of_mapM {rows : List Row} {recs : List Record} (h : rows.mapM cfg.record = .ok recs)
    {rec : Record} (hrec : rec ∈ recs) : ∃ row ∈ rows, cfg.record row = .ok rec := by
  induction rows generalizing recs with
  | nil => rw [List.mapM_nil] at h; cases h; simp at hrec
  | cons row rows ih =>
    simp only [List.mapM_cons, bind_eq_ok, pure, Except.pure, Except.ok.injEq] at h
    obtain ⟨r, hr, rs, hrs, rfl⟩ := h
    rcases List.mem_cons.1 hrec with rfl | hm
    · exact ⟨row, List.mem_cons_self _ _, hr⟩
    · obtain ⟨row', hrow', h'⟩ := ih hrs hm
      exact ⟨row', List.mem_cons_of_mem _ hrow', h'⟩

/-- **The loop runs on any sublist chosen by the lines' readings**, ending in the
fold of the chosen records. -/
theorem loop_filter {rows : List Row} {recs : List Record} (h : rows.mapM cfg.record = .ok recs)
    (p : Record → Bool) :
    cfg.generateTileStatsLoop (rows.filter fun row => match cfg.record row with
      | .ok r => p r
      | .error _ => false) = .ok ((recs.filter p).foldl cfg.apply .init) :=
  cfg.loop_eq_ok.2 ⟨_, cfg.mapM_filter h p, rfl⟩

end Config

/-- **The constructor's tables are the loop's**, read through `tileStatOf` and
`tileGroupStatOf`, and its output is the loop's followed by the missing-end check. -/
theorem new_eq_ok {dimY dimX : ℕ} {header : List String} {rows : List Row}
    {p : VanillaStatsParser} {out : List Warning}
    (h : VanillaStatsParser.new dimY dimX header rows = .ok (p, out)) :
    ∃ st, Config.generateTileStatsLoop ⟨dimY, dimX, parseHeader header⟩ rows = .ok st ∧
      p.numTags = st.numTags ∧ p.numTileGroups = st.numTileGroups ∧
      p.tileStat = Config.tileStatOf ⟨dimY, dimX, parseHeader header⟩ st ∧
      p.tileGroupStat = Config.tileGroupStatOf ⟨dimY, dimX, parseHeader header⟩ st ∧
      p.manycoreStat = generateManycoreStatsAll dimY dimX
        ((parseHeader header).allOps ++ ["instr_total", "stall_total", "miss_total"])
        (Config.tileStatOf ⟨dimY, dimX, parseHeader header⟩ st) ∧
      p.instrs = (parseHeader header).instrs ++ ["instr_total"] ∧
      p.stalls = (parseHeader header).stalls ++ ["stall_total"] ∧
      p.misses = (parseHeader header).misses ++ ["miss_total"] ∧
      p.manycoreDimY = dimY ∧ p.manycoreDimX = dimX ∧
      out = st.out ++ Config.missingEndWarnings ⟨dimY, dimX, parseHeader header⟩ st := by
  simp only [VanillaStatsParser.new, Config.generateTileStats, bind_eq_ok, pure, Except.pure,
    Except.ok.injEq, Prod.mk.injEq] at h
  obtain ⟨_, ⟨st, hst, rfl⟩, rfl, rfl⟩ := h
  exact ⟨st, hst, rfl, rfl, rfl, rfl, rfl, rfl, rfl, rfl, rfl, rfl, rfl⟩

end VanillaStats
