import VanillaStats.Proof.Errors
import VanillaStats.Proof.Tile

/-!
# The inclusive tile stat

`__generate_inclusive_tile_stat` is marked deprecated and nothing calls it. It
counts `trace_idx` down from `len(traces)`, one step per tile in row-major order,
and copies `trace[op]` of `trace = traces[trace_idx]` into the tile for every `op`
of `self.all_ops`. So tile number `i = y * dim_x + x` reads line `len - 1 - i`:
the grid is filled from the end of the trace backwards. When the grid has more
tiles than the trace has lines, the index goes negative and Python's subscript
wraps round to the end of the trace once more; it raises `IndexError` only at the
tile whose index reaches `-len - 1`. A trace dict holds the `all_ops` of
`parse_header` only, so once the constructor has appended the three totals to
`self.all_ops`, `trace["instr_total"]` raises `KeyError`.

* `pyGetItem_countdown`: `traces[len - 1 - i]` is line `i` of the reversed trace
  written out twice, for `i < 2 * len`, and raises beyond.
* `inclusiveResult_step`, `inclusiveResult_inner`, `inclusiveResult_outer`: the
  loop invariant, for one tile, one row and the whole grid.
* `inclusive_tiles_read_reversed_trace`: when the trace dicts hold every name
  read, the function returns exactly when the grid has at most twice as many
  tiles as the trace has lines, raises `IndexError` otherwise, and tile `i` holds
  line `i` of the reversed trace written out twice; when they lack a name, a
  non-empty grid raises at its first tile.
* `inclusive_tile_stat_raises_after_construction`: called with the `all_ops` of a
  constructed parser, it raises on every non-empty grid.
-/

namespace VanillaStats

theorem pyGetItem_countdown {α : Type} (l : List α) (d : α) {i : ℕ} (hi : i < 2 * l.length) :
    pyGetItem l ((l.length : ℤ) - 1 - i) = .ok ((l.reverse ++ l.reverse).getD i d) := by
  rw [List.getD_eq_getElem?_getD]
  by_cases h1 : i < l.length
  · have hidx : pyIndex l.length ((l.length : ℤ) - 1 - i) = .ok (l.length - 1 - i) :=
      pyIndex_eq_ok.2 ⟨by omega, .inl (by omega)⟩
    rw [List.getElem?_append_left (by simpa using h1), List.getElem?_reverse h1,
      List.getElem?_eq_getElem (by omega)]
    simp only [pyGetItem, hidx, bind, Except.bind, List.getElem?_eq_getElem (show l.length - 1 - i < l.length by omega)]
    rfl
  · have hidx : pyIndex l.length ((l.length : ℤ) - 1 - i) = .ok (2 * l.length - 1 - i) :=
      pyIndex_eq_ok.2 ⟨by omega, .inr (by omega)⟩
    rw [List.getElem?_append_right (by simp; omega), List.length_reverse,
      List.getElem?_reverse (by omega), List.getElem?_eq_getElem (by omega)]
    simp only [pyGetItem, hidx, bind, Except.bind,
      List.getElem?_eq_getElem (show 2 * l.length - 1 - i < l.length by omega)]
    have : l.length - 1 - (i - l.length) = 2 * l.length - 1 - i := by omega
    simp only [this]
    rfl

theorem pyGetItem_countdown_error {α : Type} (l : List α) {i : ℕ} (hi : 2 * l.length ≤ i) :
    pyGetItem l ((l.length : ℤ) - 1 - i) = .error .indexError := by
  have hidx : pyIndex l.length ((l.length : ℤ) - 1 - i) = .error .indexError :=
    pyIndex_eq_error.2 ⟨rfl, by omega⟩
  simp only [pyGetItem, hidx, bind, Except.bind]

/-- Row-major positions of the tiles of a row of width `d` are distinct. -/
theorem rowMajor_inj {d y x y' x' : ℕ} (hx : x < d) (hx' : x' < d) (h : y' * d + x' = y * d + x) :
    y' = y ∧ x' = x := by
  have hy : y' = y := by
    rcases Nat.lt_trichotomy y' y with hlt | heq | hgt
    · have : (y' + 1) * d ≤ y * d := Nat.mul_le_mul_right d hlt
      rw [Nat.succ_mul] at this; omega
    · exact heq
    · have : (y + 1) * d ≤ y' * d := Nat.mul_le_mul_right d hgt
      rw [Nat.succ_mul] at this; omega
  subst hy
  exact ⟨rfl, by omega⟩

theorem rowMajor_lt_iff {d y x Y : ℕ} (hx : x < d) : y * d + x < Y * d ↔ y < Y := by
  constructor
  · intro h
    by_contra hy
    have : Y * d ≤ y * d := Nat.mul_le_mul_right d (by omega)
    omega
  · intro h
    have : (y + 1) * d ≤ Y * d := Nat.mul_le_mul_right d h
    rw [Nat.succ_mul] at this; omega

namespace Config

variable (cfg : Config)

/-- `for op in ops: c[op] = trace[op]` for names the trace dict holds. -/
theorem foldlM_traceGet_of_subset {trace : Row} {ops : List String}
    (h : ∀ op ∈ ops, op ∈ cfg.schema.allOps) (c : Counter) :
    ops.foldlM (fun c op => do pure (c.set op (← cfg.traceGet trace op))) c =
      .ok (c.setEach ops trace) := by
  induction ops generalizing c with
  | nil => rfl
  | cons op ops ih =>
    rw [List.foldlM_cons, traceGet, if_pos (h op (List.mem_cons_self _ _))]
    exact ih (fun o ho => h o (List.mem_cons_of_mem _ ho)) _

/-- `for op in ops: c[op] = trace[op]` raises `KeyError` at the first name the
trace dict lacks. -/
theorem foldlM_traceGet_missing {trace : Row} {ops : List String} {op : String}
    (h : ops.find? (fun op => op ∉ cfg.schema.allOps) = some op) (c : Counter) :
    ops.foldlM (fun c op => do pure (c.set op (← cfg.traceGet trace op))) c =
      .error (.keyError op) := by
  induction ops generalizing c with
  | nil => cases h
  | cons o ops ih =>
    rw [List.foldlM_cons, traceGet]
    by_cases ho : o ∈ cfg.schema.allOps
    · rw [if_pos ho]
      exact ih (by simpa [ho] using h) _
    · obtain rfl : o = op := by simpa [ho] using h
      rw [if_neg ho]
      rfl

variable (allOps : List String) (traces : List Row)

/-- What the loop holds after `j` tiles: `trace_idx = len - j`, and every tile
before position `j` (row-major) holds its line's columns. -/
def InclusiveInv (j : ℕ) (acc : ℤ × (ℕ × ℕ → Counter)) : Prop :=
  acc.1 = traces.length - j ∧ ∀ y x op, (acc.2 (y, x)).count op =
    if y * cfg.manycoreDimX + x < j ∧ x < cfg.manycoreDimX ∧ op ∈ allOps then
      ((traces.reverse ++ traces.reverse).getD (y * cfg.manycoreDimX + x) fun _ => 0) op
    else 0

/-- The loop after `j` tiles: within the reach of the subscripts it holds the
invariant, beyond it it has raised `IndexError`. -/
def InclusiveResult (j : ℕ) : Except PyError (ℤ × (ℕ × ℕ → Counter)) → Prop
  | .ok acc => j ≤ 2 * traces.length ∧ cfg.InclusiveInv allOps traces j acc
  | .error e => 2 * traces.length < j ∧ e = .indexError

theorem inclusiveResult_bind {j j' : ℕ} (hjj : j ≤ j') {r : Except PyError (ℤ × (ℕ × ℕ → Counter))}
    (hr : cfg.InclusiveResult allOps traces j r)
    {g : ℤ × (ℕ × ℕ → Counter) → Except PyError (ℤ × (ℕ × ℕ → Counter))}
    (hg : ∀ acc, j ≤ 2 * traces.length → cfg.InclusiveInv allOps traces j acc →
      cfg.InclusiveResult allOps traces j' (g acc)) :
    cfg.InclusiveResult allOps traces j' (r >>= g) := by
  cases r with
  | error e => exact ⟨by have := hr.1; omega, hr.2⟩
  | ok acc => exact hg acc hr.1 hr.2

section Subset

variable {allOps} (hops : ∀ op ∈ allOps, op ∈ cfg.schema.allOps)
include hops

/-- **One tile keeps the invariant**, or raises once the subscripts run out. -/
theorem inclusiveResult_step {j y x : ℕ} (hx : x < cfg.manycoreDimX)
    (hj : y * cfg.manycoreDimX + x = j) {acc : ℤ × (ℕ × ℕ → Counter)} (hj2 : j ≤ 2 * traces.length)
    (hinv : cfg.InclusiveInv allOps traces j acc) :
    cfg.InclusiveResult allOps traces (j + 1) (cfg.inclusiveStep allOps traces y acc x) := by
  obtain ⟨hidx, hcnt⟩ := hinv
  have hsub : acc.1 - 1 = (traces.length : ℤ) - 1 - j := by rw [hidx]; ring
  by_cases hlt : j < 2 * traces.length
  · simp only [inclusiveStep, cfg.foldlM_traceGet_of_subset hops]
    simp only [hsub, pyGetItem_countdown traces (fun _ => 0) hlt, bind, Except.bind, pure, Except.pure]
    refine ⟨hlt, by push_cast; ring, fun y' x' op => ?_⟩
    dsimp only
    by_cases hp : (y', x') = (y, x)
    · obtain ⟨rfl, rfl⟩ := Prod.mk.inj hp
      rw [Function.update_same, Counter.count_setEach, hcnt, hj]
      by_cases hop : op ∈ allOps <;> simp [hop, hx]
    · rw [Function.update_noteq hp, hcnt]
      by_cases hx' : x' < cfg.manycoreDimX
      · have hpos : y' * cfg.manycoreDimX + x' ≠ j := fun e =>
          hp (by obtain ⟨rfl, rfl⟩ := rowMajor_inj hx hx' (e.trans hj.symm); rfl)
        simp only [show y' * cfg.manycoreDimX + x' < j + 1 ↔ y' * cfg.manycoreDimX + x' < j by omega]
      · simp [hx']
  · have hj' : j = 2 * traces.length := by omega
    rw [inclusiveStep, hsub, hj', pyGetItem_countdown_error traces le_rfl]
    exact ⟨by omega, rfl⟩

/-- **One row of tiles keeps the invariant.** -/
theorem inclusiveResult_inner (y : ℕ) {acc : ℤ × (ℕ × ℕ → Counter)}
    (hj2 : y * cfg.manycoreDimX ≤ 2 * traces.length)
    (hinv : cfg.InclusiveInv allOps traces (y * cfg.manycoreDimX) acc) :
    ∀ X ≤ cfg.manycoreDimX, cfg.InclusiveResult allOps traces (y * cfg.manycoreDimX + X)
      ((List.range X).foldlM (cfg.inclusiveStep allOps traces y) acc) := by
  intro X
  induction X with
  | zero => intro _; exact ⟨hj2, hinv⟩
  | succ X ih =>
    intro hX
    simp only [List.range_succ, List.foldlM_append, List.foldlM_cons, List.foldlM_nil, bind_pure]
    exact cfg.inclusiveResult_bind allOps traces (Nat.le_succ _) (ih (by omega)) fun acc' hle hinv' =>
      cfg.inclusiveResult_step traces hops hX rfl hle hinv'

/-- **The whole grid keeps the invariant**, row after row. -/
theorem inclusiveResult_outer (Y : ℕ) :
    cfg.InclusiveResult allOps traces (Y * cfg.manycoreDimX)
      ((List.range Y).foldlM
        (fun acc y => (List.range cfg.manycoreDimX).foldlM (cfg.inclusiveStep allOps traces y) acc)
        ((traces.length : ℤ), fun _ => .empty)) := by
  induction Y with
  | zero => exact ⟨by simp, by simp, fun y x op => by simp⟩
  | succ Y ih =>
    simp only [List.range_succ, List.foldlM_append, List.foldlM_cons, List.foldlM_nil, bind_pure]
    refine cfg.inclusiveResult_bind allOps traces (by rw [Nat.succ_mul]; omega) ih fun acc hle hinv => ?_
    rw [Nat.succ_mul]
    exact cfg.inclusiveResult_inner traces hops Y hle hinv _ le_rfl

/-- When the trace dicts hold every name read, the function returns exactly
within the reach of the subscripts, raises `IndexError` beyond it, and fills
tile `i` from line `i` of the reversed trace written out twice. -/
theorem generateInclusiveTileStat_of_subset :
    ((∃ f, cfg.generateInclusiveTileStat allOps traces = .ok f) ↔
      cfg.manycoreDimY * cfg.manycoreDimX ≤ 2 * traces.length) ∧
    (2 * traces.length < cfg.manycoreDimY * cfg.manycoreDimX →
      cfg.generateInclusiveTileStat allOps traces = .error .indexError) ∧
    ∀ f, cfg.generateInclusiveTileStat allOps traces = .ok f →
      ∀ y x op, (f (y, x)).count op =
        if y < cfg.manycoreDimY ∧ x < cfg.manycoreDimX ∧ op ∈ allOps then
          ((traces.reverse ++ traces.reverse).getD (y * cfg.manycoreDimX + x) fun _ => 0) op
        else 0 := by
  have hres := cfg.inclusiveResult_outer traces hops cfg.manycoreDimY
  unfold Config.generateInclusiveTileStat
  revert hres
  cases (List.range cfg.manycoreDimY).foldlM
      (fun acc y => (List.range cfg.manycoreDimX).foldlM (cfg.inclusiveStep allOps traces y) acc)
      ((traces.length : ℤ), fun _ => .empty) with
  | error e =>
    rintro ⟨hlt, rfl⟩
    simp only [bind, Except.bind, reduceCtorEq, exists_false, false_iff, not_le, false_implies,
      implies_true, and_true]
    exact hlt
  | ok acc =>
    rintro ⟨hle, -, hcnt⟩
    obtain ⟨i, F⟩ := acc
    simp only [bind, Except.bind, pure, Except.pure, Except.ok.injEq, exists_eq', true_iff,
      reduceCtorEq, imp_false, not_lt]
    refine ⟨hle, hle, ?_⟩
    rintro f rfl y x op
    rw [hcnt]
    by_cases hx : x < cfg.manycoreDimX
    · simp only [rowMajor_lt_iff hx, hx, true_and]
    · simp [hx]

end Subset

/-- When the trace dicts lack a name read, a non-empty grid raises at its first
tile: `IndexError` on an empty trace (`traces[-1]`), else `KeyError` of the first
such name. -/
theorem generateInclusiveTileStat_missing {op : String}
    (h : allOps.find? (fun op => op ∉ cfg.schema.allOps) = some op)
    (hdim : 0 < cfg.manycoreDimY * cfg.manycoreDimX) :
    cfg.generateInclusiveTileStat allOps traces =
      .error (if traces.isEmpty then .indexError else .keyError op) := by
  obtain ⟨dY, hY⟩ := Nat.exists_eq_succ_of_ne_zero (left_ne_zero_of_mul hdim.ne')
  obtain ⟨dX, hX⟩ := Nat.exists_eq_succ_of_ne_zero (right_ne_zero_of_mul hdim.ne')
  have hfirst : cfg.inclusiveStep allOps traces 0 ((traces.length : ℤ), fun _ => .empty) 0 =
      .error (if traces.isEmpty then .indexError else .keyError op) := by
    cases traces with
    | nil => rfl
    | cons row rows =>
      have hget := pyGetItem_countdown (row :: rows) (fun _ => 0)
        (show 0 < 2 * (row :: rows).length by simp)
      rw [Nat.cast_zero, sub_zero] at hget
      simp only [inclusiveStep, cfg.foldlM_traceGet_missing h]
      simp only [hget, bind, Except.bind, List.isEmpty_cons]
      rfl
  simp only [generateInclusiveTileStat, hY, hX, List.range_succ_eq_map, List.foldlM_cons, hfirst]
  rfl

end Config

/-- **The inclusive tile stat reads the trace backwards, wrapping once, and
raises where a read fails.** For every grid, trace and list `all_ops` of names
read: when every name is one the trace dicts hold, `__generate_inclusive_tile_stat`
returns exactly when `dim_y * dim_x ≤ 2 * len(traces)` and raises `IndexError`
otherwise, and then tile `(y, x)` of the grid holds, at each `all_ops` column,
line `y * dim_x + x` of the reversed trace written out twice (the last line for
tile `(0, 0)`), and nothing else; when some name is not, a non-empty grid raises
`IndexError` on an empty trace and `KeyError` of the first such name otherwise. -/
theorem inclusive_tiles_read_reversed_trace (cfg : Config) (allOps : List String)
    (traces : List Row) :
    ((∀ op ∈ allOps, op ∈ cfg.schema.allOps) →
      ((∃ f, cfg.generateInclusiveTileStat allOps traces = .ok f) ↔
        cfg.manycoreDimY * cfg.manycoreDimX ≤ 2 * traces.length) ∧
      (2 * traces.length < cfg.manycoreDimY * cfg.manycoreDimX →
        cfg.generateInclusiveTileStat allOps traces = .error .indexError) ∧
      ∀ f, cfg.generateInclusiveTileStat allOps traces = .ok f →
        ∀ y x op, (f (y, x)).count op =
          if y < cfg.manycoreDimY ∧ x < cfg.manycoreDimX ∧ op ∈ allOps then
            ((traces.reverse ++ traces.reverse).getD (y * cfg.manycoreDimX + x) fun _ => 0) op
          else 0) ∧
    ∀ op, allOps.find? (fun op => op ∉ cfg.schema.allOps) = some op →
      0 < cfg.manycoreDimY * cfg.manycoreDimX →
      cfg.generateInclusiveTileStat allOps traces =
        .error (if traces.isEmpty then .indexError else .keyError op) :=
  ⟨fun hops => cfg.generateInclusiveTileStat_of_subset traces hops,
    fun _ h hdim => cfg.generateInclusiveTileStat_missing allOps traces h hdim⟩

/-- A constructed parser's `all_ops`: the header's, then the three totals. -/
theorem allOps_of_new {dimY dimX : ℕ} {header : List String} {rows : List Row}
    {p : VanillaStatsParser} {out : List Warning}
    (h : VanillaStatsParser.new dimY dimX header rows = .ok (p, out)) :
    p.allOps = (parseHeader header).allOps ++ ["instr_total", "stall_total", "miss_total"] := by
  simp only [VanillaStatsParser.new, Config.generateTileStats, bind_eq_ok, pure, Except.pure,
    Except.ok.injEq, Prod.mk.injEq] at h
  obtain ⟨_, ⟨st, -, rfl⟩, rfl, rfl⟩ := h
  rfl

/-- **After construction the inclusive tile stat always raises.** Called with the
`all_ops` of a constructed parser and its traces, on a non-empty grid,
`__generate_inclusive_tile_stat` raises `IndexError` when there are no lines and
`KeyError('instr_total')` otherwise: the trace dicts were built before the totals
were appended to `all_ops`. -/
theorem inclusive_tile_stat_raises_after_construction {dimY dimX : ℕ} {header : List String}
    {rows : List Row} {p : VanillaStatsParser} {out : List Warning}
    (h : VanillaStatsParser.new dimY dimX header rows = .ok (p, out)) (hdim : 0 < dimY * dimX) :
    Config.generateInclusiveTileStat ⟨dimY, dimX, parseHeader header⟩ p.allOps rows =
      .error (if rows.isEmpty then .indexError else .keyError "instr_total") := by
  refine Config.generateInclusiveTileStat_missing _ _ _ ?_ hdim
  rw [allOps_of_new h, List.find?_append, List.find?_eq_none.2 fun n hn => by simpa using hn]
  simp [instr_total_not_mem_allOps]

theorem inclusive_tile_stat_of_one_line :
    ∃ p out, VanillaStatsParser.new 1 1 ["x", "y", "tag"] [rowOf [("y", 1), ("tag", 1 * 2 ^ 30)]] =
        .ok (p, out) ∧ 0 < 1 * 1 ∧
      Config.generateInclusiveTileStat ⟨1, 1, parseHeader ["x", "y", "tag"]⟩ p.allOps
          [rowOf [("y", 1), ("tag", 1 * 2 ^ 30)]] =
        .error (if [rowOf [("y", 1), ("tag", 1 * 2 ^ 30)]].isEmpty then .indexError
          else .keyError "instr_total") :=
  ⟨_, _, rfl, by decide, @inclusive_tile_stat_raises_after_construction 1 1 ["x", "y", "tag"]
    [rowOf [("y", 1), ("tag", 1 * 2 ^ 30)]] _ _ rfl (by decide)⟩

end VanillaStats
