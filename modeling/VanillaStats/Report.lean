import VanillaStats.Parser

/-!
# The reports

`print_manycore_stats_all`, `print_per_tile_group_stats_all` and
`print_per_tile_stats_all` write one line per tag, tile group, tile or column of
the tables the constructor built. Each data line is modelled by its fields, in
order, and each division by its operands. A division of two Python `int`s raises
`ZeroDivisionError` on a zero divisor; one with an `np.float64` operand does not
(`__main__` calls `np.seterr(divide='ignore', invalid='ignore')`, and the line
shows `inf` or `nan`). The fixed headers, separators and number formats are left
out. The per-tile-group and per-tile reports first make their directory inside
`./stats/`; whether the working directory has `stats/` is their argument.

The five sections of a report come in near-identical copies, one per manycore,
tile group and tile. A copy that only reads other tables is the shared definition
applied to its own tables; the timing lines, whose copies divide different
columns with different kinds of division, share `timingLine` with the
differences as arguments.
-/

namespace VanillaStats

/-- A field of a data line. -/
inductive Field where
  /-- A name. -/
  | text (s : String)
  /-- An integer. -/
  | int (v : ℤ)
  /-- The quotient `a / b`. -/
  | quot (a b : ℤ)
  /-- `1 - f`. -/
  | oneMinus (f : Field)
  deriving DecidableEq, Repr

/-- A data line. -/
abbrev Line := List Field

/-- How a division is computed: on two Python `int`s, or with an `np.float64`
operand. -/
inductive DivKind where
  | int
  | float64
  deriving DecidableEq, Repr

/-- `a / b`. -/
def divide : DivKind → ℤ → ℤ → Except PyError Field
  | .int, a, b => if b = 0 then .error .zeroDivisionError else .ok (.quot a b)
  | .float64, a, b => .ok (.quot a b)

/-- The characters of `s` with every occurrence of a non-empty `old` replaced by
`new`, left to right; `n` bounds the steps. -/
def replaceChars (old new : List Char) : ℕ → List Char → List Char
  | 0, cs => cs
  | _ + 1, [] => []
  | n + 1, c :: cs =>
    if old.isPrefixOf (c :: cs) then new ++ replaceChars old new n ((c :: cs).drop old.length)
    else c :: replaceChars old new n cs

/-- `s.replace(old, new)` for a non-empty `old`. -/
def pyReplace (s old new : String) : String :=
  ⟨replaceChars old.data new.data s.length s.data⟩

/-- The tags whose table reads a non-zero `global_ctr`: every per-tag section
prints these and skips the others. -/
def activeTags (X : ℕ → Counter) : List ℕ :=
  (List.range maxTags).filter fun tag => (X tag).count "global_ctr" ≠ 0

/-- A section's loop `for tag in range(max_tags): if X[tag]["global_ctr"]: ...`. -/
def forActiveTags (X : ℕ → Counter) (body : ℕ → Except PyError (List Line)) :
    Except PyError (List Line) := do
  let lines ← (activeTags X).mapM body
  pure lines.flatten

/-- The `(y, x)` of the grid, row by row. -/
def gridTiles (dimY dimX : ℕ) : List (ℕ × ℕ) :=
  (List.range dimY).flatMap fun y => (List.range dimX).map fun x => (y, x)

/-- `__print_*_stats_tag` on the tables `X tag` of one manycore, tile group or
tile: each active tag's totals, IPC, and cycle share of the kernel tag. -/
def printStatsTag (X : ℕ → Counter) : Except PyError (List Line) :=
  forActiveTags X fun tag => do
    let ipc ← divide .float64 ((X tag).count "instr_total") ((X tag).count "global_ctr")
    let share ← divide .int (100 * (X tag).count "global_ctr")
      ((X bsgPrintStatKernelTag).count "global_ctr")
    pure [[.int tag, .int ((X tag).count "instr_total"), .int ((X tag).count "stall_total"),
      .int ((X tag).count "global_ctr"), ipc, share]]

/-- One line of `__print_*_tag_stats_miss`: the misses of a unit against the
instructions of that unit (all instructions for `miss_icache`). -/
def missLine (X : Counter) (miss : String) : Except PyError Line := do
  let operationCnt := if miss = "miss_icache" then X.count "instr_total"
    else X.count (pyReplace miss "miss_" "instr_")
  let missCnt := X.count miss
  let hitRate ← if operationCnt = 0 then pure (.int 1)
    else do
      let q ← divide .int missCnt operationCnt
      pure (.oneMinus q)
  pure [.text miss, .int missCnt, .int operationCnt, hitRate]

/-- `__print_*_stats_miss`. -/
def printStatsMiss (X : ℕ → Counter) (misses : List String) : Except PyError (List Line) :=
  forActiveTags X fun tag => misses.mapM (missLine (X tag))

/-- `__print_*_stats_stall`: each stall's share of the stalls and of the cycles. -/
def printStatsStall (kind : DivKind) (X : ℕ → Counter) (stalls : List String) :
    Except PyError (List Line) :=
  forActiveTags X fun tag => stalls.mapM fun stall => do
    let mix ← divide kind (100 * (X tag).count stall) ((X tag).count "stall_total")
    let share ← divide kind (100 * (X tag).count stall) ((X tag).count "global_ctr")
    pure [.text stall, .int ((X tag).count stall), mix, share]

/-- `__print_*_stats_instr`: each instruction's share of the instructions. -/
def printStatsInstr (kind : DivKind) (X : ℕ → Counter) (instrs : List String) :
    Except PyError (List Line) :=
  forActiveTags X fun tag => instrs.mapM fun instr => do
    let mix ← divide kind (100 * (X tag).count instr) ((X tag).count "instr_total")
    pure [.text instr, .int ((X tag).count instr), mix]

/-- A timing line: `label`, then the instructions and cycles of `X`, its IPC, its
share of the tag's cycles `tagCycles`, and `100 * kernelNum / kernelDen`. -/
def timingLine (label : Line) (X : Counter) (tagCycles : ℤ) (kernelKind : DivKind)
    (kernelNum kernelDen : ℤ) : Except PyError Line := do
  let ipc ← divide .float64 (X.count "instr_total") (X.count "global_ctr")
  let share ← divide .int (100 * X.count "global_ctr") tagCycles
  let kernel ← divide kernelKind (100 * kernelNum) kernelDen
  pure (label ++ [.int (X.count "instr_total"), .int (X.count "global_ctr"), ipc, share, kernel])

/-- The `total` line that closes a manycore timing section, for the tag's table
`M` and the kernel tag's `K`; its fifth field divides `M[shareName]` by itself. -/
def totalLine (M K : Counter) (shareName : String) : Except PyError Line := do
  let ipc ← divide .int (M.count "instr_total") (M.count "global_ctr")
  let share ← divide .int (100 * M.count shareName) (M.count shareName)
  let kernel ← divide .int (100 * M.count "global_ctr") (K.count "global_ctr")
  pure [.text "total", .int (M.count "instr_total"), .int (M.count "global_ctr"), ipc, share, kernel]

namespace VanillaStatsParser

variable (p : VanillaStatsParser)

/-- `__print_manycore_stats_tag`. -/
def printManycoreStatsTag : Except PyError (List Line) := printStatsTag p.manycoreStat

/-- `__print_manycore_tag_stats_tile_group_timing`: a line per tile group below
`num_tile_groups[tag]`, then the tag's total. -/
def printManycoreTagStatsTileGroupTiming (tag : ℕ) : Except PyError (List Line) := do
  let lines ← (List.range (p.numTileGroups tag)).mapM fun (tgId : ℕ) =>
    timingLine [.int tgId] (p.tileGroupStat (tag, tgId)) ((p.manycoreStat tag).count "global_ctr")
      .float64 ((p.tileGroupStat (tag, tgId)).count "global_ctr")
      ((p.tileGroupStat (bsgPrintStatKernelTag, tgId)).count "global_ctr")
  let total ← totalLine (p.manycoreStat tag) (p.manycoreStat bsgPrintStatKernelTag) "instr_total"
  pure (lines ++ [total])

/-- `__print_manycore_stats_tile_group_timing`. -/
def printManycoreStatsTileGroupTiming : Except PyError (List Line) :=
  forActiveTags p.manycoreStat p.printManycoreTagStatsTileGroupTiming

/-- `__print_manycore_stats_miss`. -/
def printManycoreStatsMiss : Except PyError (List Line) := printStatsMiss p.manycoreStat p.misses

/-- `__print_manycore_stats_stall`. -/
def printManycoreStatsStall : Except PyError (List Line) :=
  printStatsStall .int p.manycoreStat p.stalls

/-- `__print_manycore_stats_instr`. -/
def printManycoreStatsInstr : Except PyError (List Line) :=
  printStatsInstr .int p.manycoreStat p.instrs

/-- `__print_manycore_tag_stats_tile_timing`: a line per tile, then the tag's
total. -/
def printManycoreTagStatsTileTiming (tag : ℕ) : Except PyError (List Line) := do
  let lines ← (gridTiles p.manycoreDimY p.manycoreDimX).mapM fun (y, x) =>
    timingLine [.int y, .int x] (p.tileStat (tag, y, x)) ((p.manycoreStat tag).count "global_ctr")
      .float64 ((p.tileStat (tag, y, x)).count "global_ctr")
      ((p.tileStat (bsgPrintStatKernelTag, y, x)).count "global_ctr")
  let total ← totalLine (p.manycoreStat tag) (p.manycoreStat bsgPrintStatKernelTag) "global_ctr"
  pure (lines ++ [total])

/-- `__print_manycore_stats_tile_timing`. -/
def printManycoreStatsTileTiming : Except PyError (List Line) :=
  forActiveTags p.manycoreStat p.printManycoreTagStatsTileTiming

/-- `print_manycore_stats_all`: the six sections of `manycore_stats.log`, in order. -/
def printManycoreStatsAll : Except PyError (List Line) := do
  let tag ← p.printManycoreStatsTag
  let tileGroupTiming ← p.printManycoreStatsTileGroupTiming
  let miss ← p.printManycoreStatsMiss
  let stall ← p.printManycoreStatsStall
  let instr ← p.printManycoreStatsInstr
  let tileTiming ← p.printManycoreStatsTileTiming
  pure (tag ++ tileGroupTiming ++ miss ++ stall ++ instr ++ tileTiming)

end VanillaStatsParser

end VanillaStats
