import VanillaStats.Tag

/-!
# `VanillaStatsParser`: from the input lines to the stats tables

The constructor sorts the header's names by prefix (`parse_header`), reads each
line as a trace over `all_ops`, folds the traces into Start and End snapshots per
tile and per tile group (`__generate_tile_stats`), takes their differences and
derived totals, and sums the tile stats into the manycore stats
(`__generate_manycore_stats_all`).

Python's fixed-length nested lists are functions of their indices here: a tile
table is read at `(tag, y, x)`, a tile group table at `(tag, tg_id)`. Only indices
inside the lists are ever read: the loop reaches a tile through `pyIndex`, so a
negative coordinate counts back from the end as in Python and one past the end
raises `IndexError`. The lines the parser prints are returned as `Warning`s,
each as the values its format string prints; the text around them is left out.
-/

namespace VanillaStats

/-- `str.startswith`, on code points. -/
def startswith (s p : String) : Bool := p.data.isPrefixOf s.data

/-- `BSG_PRINT_STAT_KERNEL_TAG`. -/
def bsgPrintStatKernelTag : ℕ := 0

/-- `_BSG_ORIGIN_X`. -/
def bsgOriginX : ℤ := 0

/-- `_BSG_ORIGIN_Y`. -/
def bsgOriginY : ℤ := 1

/-- `max_tags`. -/
def maxTags : ℕ := 1 <<< CudaStatTag.tagWidth

/-- `max_tile_groups`. -/
def maxTileGroups : ℕ := 1 <<< CudaStatTag.tgIdWidth

/-- One line of the input, every column read through `int()`. -/
abbrev Row := String → ℤ

/-- The name lists `parse_header` returns. -/
structure Schema where
  stats : List String
  instrs : List String
  misses : List String
  stalls : List String

/-- `all_ops = stats + instrs + misses + stalls`. -/
def Schema.allOps (σ : Schema) : List String := σ.stats ++ σ.instrs ++ σ.misses ++ σ.stalls

/-- `parse_header`: the header's names sorted by prefix, in header order. An
`instr_total` column is left out of every list. -/
def parseHeader (header : List String) : Schema :=
  header.foldl (fun σ item =>
    if startswith item "instr_" then
      if item ≠ "instr_total" then { σ with instrs := σ.instrs ++ [item] } else σ
    else if startswith item "miss_" then { σ with misses := σ.misses ++ [item] }
    else if startswith item "stall_" then { σ with stalls := σ.stalls ++ [item] }
    else { σ with stats := σ.stats ++ [item] }) ⟨[], [], [], []⟩

/-- `parse_header` as four filters of the header. -/
theorem parseHeader_eq (header : List String) :
    parseHeader header =
      ⟨header.filter fun i => !startswith i "instr_" && !startswith i "miss_" && !startswith i "stall_",
       header.filter fun i => startswith i "instr_" && i ≠ "instr_total",
       header.filter fun i => !startswith i "instr_" && startswith i "miss_",
       header.filter fun i => !startswith i "instr_" && !startswith i "miss_" && startswith i "stall_"⟩ := by
  suffices ∀ σ : Schema, header.foldl (fun σ item =>
      if startswith item "instr_" then
        if item ≠ "instr_total" then { σ with instrs := σ.instrs ++ [item] } else σ
      else if startswith item "miss_" then { σ with misses := σ.misses ++ [item] }
      else if startswith item "stall_" then { σ with stalls := σ.stalls ++ [item] }
      else { σ with stats := σ.stats ++ [item] }) σ =
      ⟨σ.stats ++ header.filter fun i => !startswith i "instr_" && !startswith i "miss_" &&
          !startswith i "stall_",
       σ.instrs ++ header.filter fun i => startswith i "instr_" && i ≠ "instr_total",
       σ.misses ++ header.filter fun i => !startswith i "instr_" && startswith i "miss_",
       σ.stalls ++ header.filter fun i => !startswith i "instr_" && !startswith i "miss_" &&
          startswith i "stall_"⟩ from this ⟨[], [], [], []⟩
  induction header with
  | nil => intro σ; simp
  | cons item header ih =>
    intro σ
    rw [List.foldl_cons, ih]
    by_cases hi : startswith item "instr_"
    · by_cases ht : item = "instr_total"
      · subst ht; simp [hi]
      · simp [hi, ht]
    · by_cases hm : startswith item "miss_" <;> by_cases hs : startswith item "stall_" <;>
        simp [hi, hm, hs]

theorem instr_total_not_mem_allOps (header : List String) :
    "instr_total" ∉ (parseHeader header).allOps := by
  have : startswith "instr_total" "instr_" = true := by decide
  simp [parseHeader_eq, Schema.allOps, this]

/-- What `__generate_tile_stats` reads of the parser. -/
structure Config where
  manycoreDimY : ℕ
  manycoreDimX : ℕ
  schema : Schema

/-- A line the parser prints. -/
inductive Warning where
  /-- `missing start stat`, with the End's tag and relative `x`, `y`. -/
  | missingStart (tag : ℕ) (x y : ℤ)
  /-- `missing end stat(s)`, with the residual credits, the tag and the tile. -/
  | missingEnd (credits : ℤ) (tag x y : ℕ)
  deriving DecidableEq, Repr

/-- A tile table index `(tag, y, x)`. -/
abbrev TileKey := ℕ × ℕ × ℕ

/-- A tile group table index `(tag, tg_id)`. -/
abbrev GroupKey := ℕ × ℕ

/-- The local tables of `__generate_tile_stats` while it reads the traces. -/
structure TileStatsState where
  numTags : ℕ
  numTileGroups : ℕ → ℕ
  tileStatStart : TileKey → Counter
  tileStatEnd : TileKey → Counter
  tileGroupStatStart : GroupKey → Counter
  tileGroupStatEnd : GroupKey → Counter
  tagCredits : TileKey → ℤ
  out : List Warning

/-- The tables before the first trace. -/
def TileStatsState.init : TileStatsState :=
  ⟨0, fun _ => 0, fun _ => .empty, fun _ => .empty, fun _ => .empty, fun _ => .empty, fun _ => 0, []⟩

/-- What the parser returns from `__generate_tile_stats`. -/
structure TileStats where
  numTags : ℕ
  numTileGroups : ℕ → ℕ
  tileGroupStat : GroupKey → Counter
  tileStat : TileKey → Counter

namespace Config

variable (cfg : Config)

/-- `trace[k]`, where `trace = {op: int(row[op]) for op in all_ops}`. -/
def traceGet (trace : Row) (k : String) : Except PyError ℤ :=
  if k ∈ cfg.schema.allOps then .ok (trace k) else .error (.keyError k)

/-- `[cst.tag][relative_y][relative_x]` on a table of shape
`(max_tags, manycore_dim_y, manycore_dim_x)`; a tag is always below `max_tags`. -/
def tileIndex (tag : ℕ) (relativeY relativeX : ℤ) : Except PyError TileKey := do
  let y ← pyIndex cfg.manycoreDimY relativeY
  let x ← pyIndex cfg.manycoreDimX relativeX
  pure (tag, y, x)

/-- The body of `for trace in traces` in `__generate_tile_stats`. -/
def generateTileStatsStep (st : TileStatsState) (trace : Row) : Except PyError TileStatsState := do
  let y ← cfg.traceGet trace "y"
  let x ← cfg.traceGet trace "x"
  let relativeY := y - bsgOriginY
  let relativeX := x - bsgOriginX
  let cst ← CudaStatTag.new (← cfg.traceGet trace "tag")
  let allOps := cfg.schema.allOps
  if cst.isStart then
    let k ← cfg.tileIndex cst.tag relativeY relativeX
    let g := (cst.tag, cst.tgId)
    pure { st with
      tagCredits := Function.update st.tagCredits k (st.tagCredits k + 1)
      -- `not tile_group_stat_start[cst.tag]` tests the tag's whole row of
      -- `max_tile_groups` counters, which is empty only if that length is `0`
      numTags := if maxTileGroups = 0 then st.numTags + 1 else st.numTags
      numTileGroups := if (st.tileGroupStatStart g).isEmpty then
          Function.update st.numTileGroups cst.tag (st.numTileGroups cst.tag + 1)
        else st.numTileGroups
      tileStatStart := Function.update st.tileStatStart k ((st.tileStatStart k).setEach allOps trace)
      tileGroupStatStart := Function.update st.tileGroupStatStart g
        ((st.tileGroupStatStart g).addEach allOps trace) }
  else if cst.isEnd then
    let k ← cfg.tileIndex cst.tag relativeY relativeX
    let g := (cst.tag, cst.tgId)
    let credit := st.tagCredits k - 1
    pure { st with
      tagCredits := Function.update st.tagCredits k credit
      out := if credit < 0 then st.out ++ [.missingStart cst.tag relativeX relativeY] else st.out
      tileStatEnd := Function.update st.tileStatEnd k ((st.tileStatEnd k).setEach allOps trace)
      tileGroupStatEnd := Function.update st.tileGroupStatEnd g
        ((st.tileGroupStatEnd g).addEach allOps trace) }
  else pure st

/-- The loop over the traces. -/
def generateTileStatsLoop (traces : List Row) : Except PyError TileStatsState :=
  traces.foldlM cfg.generateTileStatsStep .init

end Config

/-- `for instr in instrs: c["instr_total"] += c[instr]`, and its stall and miss twins. -/
def Counter.addTotal (c : Counter) (total : String) (names : List String) : Counter :=
  names.foldl (fun c n => c.set total (c.count total + c.count n)) c

theorem Counter.count_addTotal_of_ne (c : Counter) {total k : String} (names : List String)
    (h : k ≠ total) : (c.addTotal total names).count k = c.count k := by
  induction names generalizing c with
  | nil => rfl
  | cons n names ih => rw [Counter.addTotal, List.foldl_cons, ← Counter.addTotal, ih]; simp [h]

/-- A total whose name is not among the names it adds is their sum. -/
theorem Counter.count_addTotal_self (c : Counter) {total : String} {names : List String}
    (h : total ∉ names) :
    (c.addTotal total names).count total = c.count total + (names.map c.count).sum := by
  induction names generalizing c with
  | nil => simp [Counter.addTotal]
  | cons n names ih =>
    rw [List.mem_cons, not_or] at h
    rw [Counter.addTotal, List.foldl_cons, ← Counter.addTotal, ih _ h.2]
    have : names.map (c.set total (c.count total + c.count n)).count = names.map c.count :=
      List.map_congr_left fun m hm => by simp [show m ≠ total from fun e => h.2 (e ▸ hm)]
    simp [this, Ne.symm h.1, add_assoc]

/-- The three totals loops on one tile's or tile group's counter. -/
def Schema.generateTotals (σ : Schema) (c : Counter) : Counter :=
  ((c.addTotal "instr_total" σ.instrs).addTotal "stall_total" σ.stalls).addTotal "miss_total" σ.misses

/-- The totals loops leave every other name as it was. -/
theorem Schema.count_generateTotals_of_ne (σ : Schema) (c : Counter) {k : String}
    (hi : k ≠ "instr_total") (hs : k ≠ "stall_total") (hm : k ≠ "miss_total") :
    (σ.generateTotals c).count k = c.count k := by
  simp only [generateTotals, Counter.count_addTotal_of_ne _ _ hi, Counter.count_addTotal_of_ne _ _ hs,
    Counter.count_addTotal_of_ne _ _ hm]

namespace Config

variable (cfg : Config)

/-- `tile_stat[tag][y][x] = tile_stat_end[tag][y][x] - tile_stat_start[tag][y][x]`,
with its totals. -/
def tileStatOf (st : TileStatsState) (k : TileKey) : Counter :=
  cfg.schema.generateTotals (st.tileStatEnd k - st.tileStatStart k)

/-- `tile_group_stat[tag][tg_id]`: the difference and its totals for
`tg_id < num_tile_groups[tag]`, the initial empty counter beyond. -/
def tileGroupStatOf (st : TileStatsState) (g : GroupKey) : Counter :=
  if g.2 < st.numTileGroups g.1 then
    cfg.schema.generateTotals (st.tileGroupStatEnd g - st.tileGroupStatStart g)
  else .empty

/-- The missing-end check after the loop, in the order of its three loops. -/
def missingEndWarnings (st : TileStatsState) : List Warning :=
  (List.range maxTags).flatMap fun tag =>
    (List.range cfg.manycoreDimY).flatMap fun y =>
      (List.range cfg.manycoreDimX).filterMap fun x =>
        if st.tagCredits (tag, y, x) > 0 then some (.missingEnd (st.tagCredits (tag, y, x)) tag x y)
        else none

/-- One tile of `__generate_inclusive_tile_stat`: step `trace_idx` down and copy
`trace[op]` of `trace = traces[trace_idx]` into tile `(y, x)` for every `op` of
`all_ops`, the list `self.all_ops` holds at the call. -/
def inclusiveStep (allOps : List String) (traces : List Row) (y : ℕ)
    (acc : ℤ × (ℕ × ℕ → Counter)) (x : ℕ) : Except PyError (ℤ × (ℕ × ℕ → Counter)) := do
  let traceIdx := acc.1 - 1
  let trace ← pyGetItem traces traceIdx
  let tile ← allOps.foldlM (fun c op => do pure (c.set op (← cfg.traceGet trace op))) (acc.2 (y, x))
  pure (traceIdx, Function.update acc.2 (y, x) tile)

/-- `__generate_inclusive_tile_stat` (marked deprecated, and never called):
`trace_idx` starts at `len(traces)` and the tiles are visited row by row. -/
def generateInclusiveTileStat (allOps : List String) (traces : List Row) :
    Except PyError (ℕ × ℕ → Counter) := do
  let (_, tileStat) ← (List.range cfg.manycoreDimY).foldlM
    (fun acc y => (List.range cfg.manycoreDimX).foldlM (cfg.inclusiveStep allOps traces y) acc)
    ((traces.length : ℤ), fun _ => .empty)
  pure tileStat

/-- `__generate_tile_stats`, with everything it prints. -/
def generateTileStats (traces : List Row) : Except PyError (TileStats × List Warning) := do
  let st ← cfg.generateTileStatsLoop traces
  pure (⟨st.numTags, st.numTileGroups, cfg.tileGroupStatOf st, cfg.tileStatOf st⟩,
    st.out ++ cfg.missingEndWarnings st)

end Config

/-- `__generate_manycore_stats_all`, for one tag: every op of `all_ops` summed over
the tiles (an op listed twice is added twice). -/
def generateManycoreStatsAll (dimY dimX : ℕ) (allOps : List String) (tileStat : TileKey → Counter)
    (tag : ℕ) : Counter :=
  (List.range dimY).foldl (fun c y =>
    (List.range dimX).foldl (fun c x => c.addEach allOps (tileStat (tag, y, x)).count) c) .empty

/-- The attributes of a constructed `VanillaStatsParser` that its reports read. -/
structure VanillaStatsParser where
  manycoreDimY : ℕ
  manycoreDimX : ℕ
  numTags : ℕ
  numTileGroups : ℕ → ℕ
  tileStat : TileKey → Counter
  tileGroupStat : GroupKey → Counter
  manycoreStat : ℕ → Counter
  stats : List String
  instrs : List String
  misses : List String
  stalls : List String
  allOps : List String

/-- `VanillaStatsParser(manycore_dim_y, manycore_dim_x, ...)` on a file with this
header and these lines, with what it prints. `__generate_tile_stats` appends the
three total names to `instrs`, `stalls`, `misses` and `all_ops` as it returns. -/
def VanillaStatsParser.new (dimY dimX : ℕ) (header : List String) (rows : List Row) :
    Except PyError (VanillaStatsParser × List Warning) := do
  let σ := parseHeader header
  let (r, out) ← Config.generateTileStats ⟨dimY, dimX, σ⟩ rows
  let allOps := σ.allOps ++ ["instr_total", "stall_total", "miss_total"]
  pure (⟨dimY, dimX, r.numTags, r.numTileGroups, r.tileStat, r.tileGroupStat,
    generateManycoreStatsAll dimY dimX allOps r.tileStat, σ.stats, σ.instrs ++ ["instr_total"],
    σ.misses ++ ["miss_total"], σ.stalls ++ ["stall_total"], allOps⟩, out)

end VanillaStats
