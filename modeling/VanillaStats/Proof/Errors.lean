import VanillaStats.Proof.Step

/-!
# When construction raises

Before it writes anything for a line, the loop of `__generate_tile_stats` reads
it, and the reading can raise: `trace["y"]`, `trace["x"]` and `trace["tag"]`
raise `KeyError` for a column that is not in `all_ops`, `CudaStatTag` raises
`ValueError` when the two type bits are both set, and the table subscripts of a
Start or End raise `IndexError` when `y - 1` or `x` is outside `[-dim, dim)`, the
subscripts a Python list of length `dim` accepts. `Config.lineError` says this of
one line, in the order the body checks it.

* `record_eq_error`: reading a line raises exactly its `lineError`.
* `foldlM_eq_error`: the loop raises the error of the first line that has one.
* `new_raises_first_line_error`: so does the constructor, and it completes
  exactly when no line has an error.
-/

namespace VanillaStats

theorem pyIndex_eq_error {n : ℕ} {i : ℤ} {e : PyError} :
    pyIndex n i = .error e ↔ e = .indexError ∧ ¬(-(n : ℤ) ≤ i ∧ i < n) := by
  have hj : (0 ≤ (if i < 0 then i + n else i) ∧ (if i < 0 then i + n else i) < n) ↔
      (-(n : ℤ) ≤ i ∧ i < n) := by
    split_ifs <;> omega
  unfold pyIndex
  simp only [hj]
  split_ifs with h <;> simp [h, eq_comm]

namespace Config

variable (cfg : Config)

/-- What reading `row` raises, if anything: a missing `y`, `x` or `tag` column,
type bits `3`, or a Start or End (type bits `1` or `2`) whose `y - 1` or `x` no
subscript of the tables reaches. -/
def lineError (row : Row) : Option PyError :=
  if "y" ∉ cfg.schema.allOps then some (.keyError "y")
  else if "x" ∉ cfg.schema.allOps then some (.keyError "x")
  else if "tag" ∉ cfg.schema.allOps then some (.keyError "tag")
  else if row "tag" / 2 ^ 30 % 4 = 3 then some .valueError
  else if row "tag" / 2 ^ 30 % 4 = 0 then none
  else if -(cfg.manycoreDimY : ℤ) ≤ row "y" - 1 ∧ row "y" - 1 < cfg.manycoreDimY ∧
      -(cfg.manycoreDimX : ℤ) ≤ row "x" ∧ row "x" < cfg.manycoreDimX then none
  else some .indexError

theorem tileIndex_eq_error {tag : ℕ} {ry rx : ℤ} {e : PyError} :
    cfg.tileIndex tag ry rx = .error e ↔ e = .indexError ∧
      ¬(-(cfg.manycoreDimY : ℤ) ≤ ry ∧ ry < cfg.manycoreDimY ∧
        -(cfg.manycoreDimX : ℤ) ≤ rx ∧ rx < cfg.manycoreDimX) := by
  unfold tileIndex
  rcases hy : pyIndex cfg.manycoreDimY ry with e1 | y
  · obtain ⟨rfl, hr⟩ := pyIndex_eq_error.1 hy
    simp only [bind, Except.bind, Except.error.injEq]
    exact ⟨fun h => ⟨h.symm, fun h' => hr ⟨h'.1, h'.2.1⟩⟩, fun h => h.1.symm⟩
  · have hy' := pyIndex_eq_ok.1 hy
    rcases hx : pyIndex cfg.manycoreDimX rx with e2 | x
    · obtain ⟨rfl, hr⟩ := pyIndex_eq_error.1 hx
      simp only [bind, Except.bind, Except.error.injEq]
      exact ⟨fun h => ⟨h.symm, fun h' => hr ⟨h'.2.2.1, h'.2.2.2⟩⟩, fun h => h.1.symm⟩
    · have hx' := pyIndex_eq_ok.1 hx
      simp only [bind, Except.bind, pure, Except.pure, reduceCtorEq, false_iff, not_and, not_not]
      omega

/-- **What reading a line raises.** -/
theorem record_eq_error {row : Row} {e : PyError} :
    cfg.record row = .error e ↔ cfg.lineError row = some e := by
  unfold record lineError traceGet
  by_cases hy : "y" ∈ cfg.schema.allOps; swap
  · simp [hy, bind, Except.bind]
  by_cases hx : "x" ∈ cfg.schema.allOps; swap
  · simp [hy, hx, bind, Except.bind]
  by_cases ht : "tag" ∈ cfg.schema.allOps; swap
  · simp [hy, hx, ht, bind, Except.bind]
  simp only [hy, hx, ht, not_true_eq_false, if_false, if_true, bind, Except.bind]
  rcases hc : CudaStatTag.new (row "tag") with e' | cst
  · obtain ⟨h3, rfl⟩ := CudaStatTag.new_eq_error.1 hc
    simp [h3]
  · obtain ⟨-, hv⟩ := CudaStatTag.new_eq_ok.1 hc
    have hrange := fun (e' : PyError) =>
      @tileIndex_eq_error cfg cst.tag (row "y" - bsgOriginY) (row "x" - bsgOriginX) e'
    simp only [bsgOriginY, bsgOriginX, sub_zero] at hrange ⊢
    norm_num only [hv]
    cases hst : cst.statType <;>
      simp only [StatType.value, hst, CudaStatTag.isStart, CudaStatTag.isEnd, beq_self_eq_true,
        reduceCtorEq, if_true, if_false]
    · simp [pure, Except.pure]
    all_goals
      rcases hti : cfg.tileIndex cst.tag (row "y" - 1) (row "x") with e' | k
      · obtain ⟨rfl, hr⟩ := (hrange e').1 hti
        simp only [hr, ↓reduceIte, ite_self, Nat.cast_one, Nat.cast_ofNat, Int.reduceEq,
          Except.error.injEq, Option.some.injEq]
      · have hr : -(cfg.manycoreDimY : ℤ) ≤ row "y" - 1 ∧ row "y" - 1 < cfg.manycoreDimY ∧
            -(cfg.manycoreDimX : ℤ) ≤ row "x" ∧ row "x" < cfg.manycoreDimX :=
          by_contra fun hr => by simpa [hti] using (hrange _).2 ⟨rfl, hr⟩
        simp [hr, pure, Except.pure]

theorem lineError_eq_none {row : Row} : cfg.lineError row = none ↔ ∃ rec, cfg.record row = .ok rec := by
  rcases hr : cfg.record row with e | rec
  · simp [(cfg.record_eq_error).1 hr]
  · cases hl : cfg.lineError row with
    | none => simp
    | some e => rw [← record_eq_error, hr] at hl; cases hl

/-- **The loop raises the first line's error**, from any state. -/
theorem foldlM_eq_error {rows : List Row} {s0 : TileStatsState} {e : PyError} :
    rows.foldlM cfg.generateTileStatsStep s0 = .error e ↔ rows.findSome? cfg.lineError = some e := by
  induction rows generalizing s0 with
  | nil => simp [pure, Except.pure]
  | cons row rows ih =>
    rw [List.foldlM_cons, step_eq, List.findSome?_cons]
    rcases hr : cfg.record row with e' | rec
    · simp [(cfg.record_eq_error).1 hr, Except.map, bind, Except.bind]
    · rw [(cfg.lineError_eq_none).2 ⟨rec, hr⟩]
      exact ih

end Config

/-- **Construction raises the first line's error.** For every grid, header and
list of lines, `VanillaStatsParser(...)` raises exactly the `lineError` of the
first line that has one (a `KeyError` for a column missing from `all_ops`, a
`ValueError` for type bits `3`, an `IndexError` for a Start or End that no
subscript reaches), and it completes exactly when no line has one. -/
theorem new_raises_first_line_error (dimY dimX : ℕ) (header : List String) (rows : List Row) :
    (∀ e, VanillaStatsParser.new dimY dimX header rows = .error e ↔
      rows.findSome? (Config.lineError ⟨dimY, dimX, parseHeader header⟩) = some e) ∧
    ((∃ p out, VanillaStatsParser.new dimY dimX header rows = .ok (p, out)) ↔
      ∀ row ∈ rows, Config.lineError ⟨dimY, dimX, parseHeader header⟩ row = none) := by
  have hE : ∀ e, VanillaStatsParser.new dimY dimX header rows = .error e ↔
      rows.findSome? (Config.lineError ⟨dimY, dimX, parseHeader header⟩) = some e := fun e => by
    rw [← Config.foldlM_eq_error]
    simp only [VanillaStatsParser.new, Config.generateTileStats, Config.generateTileStatsLoop]
    rcases rows.foldlM (Config.generateTileStatsStep ⟨dimY, dimX, parseHeader header⟩) .init with
      _ | st <;> simp [bind, Except.bind, pure, Except.pure]
  refine ⟨hE, ?_⟩
  rw [← List.findSome?_eq_none_iff]
  rcases hx : VanillaStatsParser.new dimY dimX header rows with e | ⟨p, out⟩
  · simp [(hE e).1 hx]
  · cases hf : rows.findSome? (Config.lineError ⟨dimY, dimX, parseHeader header⟩) with
    | none => simp
    | some e => rw [← hE, hx] at hf; cases hf

end VanillaStats
