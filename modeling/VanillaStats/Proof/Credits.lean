import VanillaStats.Proof.Tile
import Mathlib.Data.List.Infix

/-!
# Credits and the missing-start and missing-end warnings

The loop keeps one credit per tile index: `+1` at a Start, `-1` at an End, and it
prints `missing start stat` each time an End leaves the credit negative. After the
loop, a positive credit prints `missing end stat(s)` with the credit. The credit
is a net balance that is never reset, so it reports the records that a matching of
Ends to earlier Starts leaves unmatched only in part.

* `unmatched`: that matching, each End taking an earlier unmatched Start of its key;
  `unmatched_balance`: it leaves the balance as unmatched Starts minus unmatched Ends.
* `creditStep_foldl`: along any run of a key's records, the credit is the balance
  and the missing-start lines are the Ends at which the running balance is
  negative (`negativeEnds`).
* `warnings_of_unmatched`: for lines inside the grid, what the constructor reports
  for every key.
* `end_start_end_start_warnings`: End, Start, End, Start leaves one Start and one
  End unmatched, and prints two missing-start lines and no missing-end line.
-/

namespace VanillaStats

/-- One record of the matching: a Start (`true`) waits, and an End takes a waiting
Start when there is one. The state counts the Starts and Ends left unmatched. -/
def matchStep : ℕ × ℕ → Bool → ℕ × ℕ
  | (s, e), true => (s + 1, e)
  | (s, e), false => if 0 < s then (s - 1, e) else (s, e + 1)

/-- Unmatched Starts and Ends of a key's records, given in order by their kinds. -/
def unmatched (kinds : List Bool) : ℕ × ℕ := kinds.foldl matchStep (0, 0)

/-- The kinds (`true` for a Start) of the Start and End lines of tag field `t` at
`y = r + 1`, `x = c`, in order. -/
def keyKinds (t r c : ℕ) (rows : List Row) : List Bool :=
  (keyRows t r c rows).map (isKeyRow .START t r c)

/-- An End prints the tile it updates: its tag is the tile's tag field and its
relative coordinates are the tile's indices. Lines inside the grid are read so
(`coherent_of_inGrid`). -/
def Record.Coherent : Record → Prop
  | .endAt k g _ relativeX relativeY => g.1 = k.1 ∧ relativeX = k.2.2 ∧ relativeY = k.2.1
  | _ => True

/-- A tile's credit and the number of missing-start lines printed for it. -/
def TileStatsState.creditView (st : TileStatsState) (k : TileKey) : ℤ × ℕ :=
  (st.tagCredits k, st.out.count (.missingStart k.1 k.2.2 k.2.1))

/-- What a record of the tile does to its credit and its missing-start count. -/
def creditStep : ℤ × ℕ → Record → ℤ × ℕ
  | v, .stat => v
  | (c, w), .startAt .. => (c + 1, w)
  | (c, w), .endAt .. => (c - 1, if c - 1 < 0 then w + 1 else w)

/-- Starts minus Ends among the kinds. -/
def balance (kinds : List Bool) : ℤ := kinds.count true - kinds.count false

/-- The Ends at which the running balance, counted up to and including them, is
below `0`. -/
def negativeEnds (kinds : List Bool) : ℕ :=
  (kinds.inits.filter fun pre => pre.getLast? = some false ∧ balance pre < 0).length

@[simp] theorem balance_append_singleton (kinds : List Bool) (b : Bool) :
    balance (kinds ++ [b]) = if b then balance kinds + 1 else balance kinds - 1 := by
  cases b <;> simp [balance, List.count_append] <;> ring

@[simp] theorem negativeEnds_append_singleton (kinds : List Bool) (b : Bool) :
    negativeEnds (kinds ++ [b]) =
      negativeEnds kinds + if b = false ∧ balance (kinds ++ [b]) < 0 then 1 else 0 := by
  rw [negativeEnds, negativeEnds, List.inits_append, List.filter_append, List.length_append]
  congr 1
  cases b
  · by_cases h : balance kinds < 1 <;> simp [List.filter_singleton, h]
  · simp [List.filter_singleton]

/-- The matching leaves unmatched Starts minus unmatched Ends equal to the
balance. -/
theorem unmatched_balance (kinds : List Bool) :
    ((unmatched kinds).1 : ℤ) - (unmatched kinds).2 = balance kinds := by
  induction kinds using List.reverseRecOn with
  | nil => rfl
  | append_singleton kinds b ih =>
    rw [unmatched, List.foldl_append, ← unmatched, balance_append_singleton, ← ih]
    obtain ⟨s, e⟩ := unmatched kinds
    cases b
    · by_cases hs : 0 < s <;> simp [matchStep, hs] <;> omega
    · simp [matchStep]; ring

/-- **Along a run of a key's records, the credit is the balance and the missing-start
lines are its negative Ends.** -/
theorem creditStep_foldl {L : List Record} (hL : ∀ r ∈ L, r.kind ≠ .STAT) :
    L.foldl creditStep (0, 0) =
      (balance (L.map (·.kind == .START)), negativeEnds (L.map (·.kind == .START))) := by
  induction L using List.reverseRecOn with
  | nil => rfl
  | append_singleton L r ih =>
    rw [List.foldl_append, ih fun r' hr' => hL r' (List.mem_append_left _ hr'), List.map_append,
      List.map_singleton, balance_append_singleton, negativeEnds_append_singleton,
      balance_append_singleton]
    generalize L.map (·.kind == StatType.START) = kinds
    cases r with
    | stat => exact absurd rfl (hL _ (List.mem_append_right _ (List.mem_singleton_self _)))
    | startAt => simp [creditStep, Record.kind]
    | endAt => simp [creditStep, Record.kind, add_ite]

namespace Config

variable (cfg : Config)

theorem coherent_of_inGrid {row : Row} {rec : Record}
    (hg : InGrid cfg.manycoreDimY cfg.manycoreDimX row) (h : cfg.record row = .ok rec) :
    rec.Coherent := by
  obtain ⟨-, -, -, cst, -, hcases⟩ := cfg.record_eq_ok.1 h
  rcases hcases with ⟨-, -, rfl⟩ | ⟨⟨t, y, x⟩, hk, ⟨-, rfl⟩ | ⟨-, -, rfl⟩⟩
  · trivial
  · trivial
  obtain ⟨rfl, hy, hx⟩ := cfg.tileIndex_eq_ok.1 hk
  rw [pyIndex_eq_ok] at hy hx
  obtain ⟨hy1, -, hx1, -⟩ := hg
  simp only [Record.Coherent, bsgOriginY, bsgOriginX, sub_zero, true_and] at hy hx ⊢
  exact ⟨by omega, by omega⟩

theorem creditView_apply (st : TileStatsState) {r : Record} (hr : r.Coherent) (k : TileKey) :
    (cfg.apply st r).creditView k =
      if r.tile? == some k then creditStep (st.creditView k) r else st.creditView k := by
  cases r with
  | stat => rfl
  | startAt k' g trace =>
    by_cases hk : k = k' <;> simp [apply, creditStep, Record.tile?, TileStatsState.creditView, hk, Ne.symm]
  | endAt k' g trace x y =>
    obtain ⟨hg, rfl, rfl⟩ := hr
    have hw : Warning.missingStart k.1 k.2.2 k.2.1 = .missingStart g.1 k'.2.2 k'.2.1 ↔ k = k' := by
      rw [hg]; simp only [Warning.missingStart.injEq, Nat.cast_inj, Prod.ext_iff]; tauto
    by_cases hk : k = k'
    · subst hk
      simp only [apply, creditStep, Record.tile?, TileStatsState.creditView, beq_self_eq_true,
        if_true, Function.update_same]
      split_ifs <;> simp [List.count_append, hg]
    · simp only [apply, Record.tile?, TileStatsState.creditView, beq_iff_eq, Option.some.injEq,
        Ne.symm hk, if_false, Function.update_noteq hk]
      split_ifs <;> simp [List.count_append, List.count_singleton, hw, hk]

/-- **A tile's credit and missing-start lines are the fold of its own records.** -/
theorem creditView_foldl {recs : List Record} (hrecs : ∀ r ∈ recs, r.Coherent)
    (st : TileStatsState) (k : TileKey) :
    (recs.foldl cfg.apply st).creditView k =
      (recs.filter (·.tile? == some k)).foldl creditStep (st.creditView k) := by
  induction recs generalizing st with
  | nil => rfl
  | cons r recs ih =>
    rw [List.foldl_cons, ih (fun r' hr' => hrecs r' (List.mem_cons_of_mem _ hr')),
      creditView_apply _ _ (hrecs r (List.mem_cons_self _ _)), List.filter_cons]
    split_ifs <;> rfl

/-- The loop prints missing-start lines only. -/
theorem missingEnd_not_mem_foldl (recs : List Record) {st : TileStatsState} {n : ℤ} {t x y : ℕ}
    (h : Warning.missingEnd n t x y ∉ st.out) :
    Warning.missingEnd n t x y ∉ (recs.foldl cfg.apply st).out := by
  induction recs generalizing st with
  | nil => exact h
  | cons r recs ih =>
    apply ih
    cases r with
    | stat => exact h
    | startAt => exact h
    | endAt => simp only [apply]; split_ifs <;> simp [h]

theorem missingStart_not_mem_missingEndWarnings (st : TileStatsState) (t : ℕ) (x y : ℤ) :
    Warning.missingStart t x y ∉ cfg.missingEndWarnings st := by
  simp [missingEndWarnings]

theorem missingEnd_mem_missingEndWarnings {st : TileStatsState} {n : ℤ} {t r c : ℕ} :
    Warning.missingEnd n t c r ∈ cfg.missingEndWarnings st ↔
      t < maxTags ∧ r < cfg.manycoreDimY ∧ c < cfg.manycoreDimX ∧ 0 < st.tagCredits (t, r, c) ∧
        n = st.tagCredits (t, r, c) := by
  simp only [missingEndWarnings, List.mem_flatMap, List.mem_range, List.mem_filterMap,
    Option.ite_none_right_eq_some, Option.some.injEq, Warning.missingEnd.injEq, gt_iff_lt]
  constructor
  · rintro ⟨t', ht, r', hr, c', hc, hpos, rfl, rfl, rfl, rfl⟩
    exact ⟨ht, hr, hc, hpos, rfl⟩
  · rintro ⟨ht, hr, hc, hpos, rfl⟩
    exact ⟨t, ht, r, hr, c, hc, hpos, rfl, rfl, rfl, rfl⟩

/-- For lines inside the grid, a key's records, read by kind, are its lines read by
kind. -/
theorem kinds_eq_keyKinds {rows : List Row} {recs : List Record}
    (hg : ∀ row ∈ rows, InGrid cfg.manycoreDimY cfg.manycoreDimX row)
    (h : rows.mapM cfg.record = .ok recs) (t r c : ℕ) :
    (recs.filter (·.tile? == some (t, r, c))).map (·.kind == .START) = keyKinds t r c rows := by
  refine cfg.filter_map_records h fun row hrow rec hr => ?_
  obtain ⟨hs, -⟩ := cfg.record_inGrid (hg row hrow) hr (show StatType.START ≠ .STAT by decide) t r c
  obtain ⟨he, -⟩ := cfg.record_inGrid (hg row hrow) hr (show StatType.END ≠ .STAT by decide) t r c
  rw [← hs, ← he]
  cases rec <;> simp [Record.kind, Record.tile?]

end Config

theorem isKeyRow_inRange {dimY dimX : ℕ} {kind : StatType} {t r c : ℕ} {row : Row}
    (hg : InGrid dimY dimX row) (h : isKeyRow kind t r c row = true) :
    t < maxTags ∧ r < dimY ∧ c < dimX := by
  obtain ⟨cst, -, -, rfl, hy, hx⟩ := isKeyRow_eq_true.1 h
  obtain ⟨-, hy2, -, hx2⟩ := hg
  exact ⟨cst.tag_lt, by omega, by omega⟩

theorem unmatched_eq_zero_of_outside {dimY dimX : ℕ} {rows : List Row}
    (hg : ∀ row ∈ rows, InGrid dimY dimX row) {t r c : ℕ}
    (hout : ¬(t < maxTags ∧ r < dimY ∧ c < dimX)) : unmatched (keyKinds t r c rows) = (0, 0) := by
  suffices keyKinds t r c rows = [] by rw [this]; rfl
  simp only [keyKinds, keyRows, List.map_eq_nil_iff, List.filter_eq_nil_iff, Bool.or_eq_true, not_or]
  exact fun row hrow => ⟨fun h => hout (isKeyRow_inRange (hg row hrow) h),
    fun h => hout (isKeyRow_inRange (hg row hrow) h)⟩

/-- **What the warnings say about a key.** For lines inside the grid, the
missing-start lines printed for key `(t, r, c)` are as many as its Ends at which
the running Start-minus-End balance is below `0`. Match each End of the key to an
earlier unmatched Start of the key when there is one, leaving `s` Starts and `e`
Ends unmatched: a missing-end line is printed for the key exactly when `e < s`,
reporting `s - e`, the final balance. -/
theorem warnings_of_unmatched {dimY dimX : ℕ} {header : List String} {rows : List Row}
    {p : VanillaStatsParser} {out : List Warning} (hgrid : ∀ row ∈ rows, InGrid dimY dimX row)
    (h : VanillaStatsParser.new dimY dimX header rows = .ok (p, out)) (t r c : ℕ) :
    out.count (.missingStart t c r) = negativeEnds (keyKinds t r c rows) ∧
      ∀ n, Warning.missingEnd n t c r ∈ out ↔
        (unmatched (keyKinds t r c rows)).2 < (unmatched (keyKinds t r c rows)).1 ∧
          n = ((unmatched (keyKinds t r c rows)).1 : ℤ) - (unmatched (keyKinds t r c rows)).2 := by
  set cfg : Config := ⟨dimY, dimX, parseHeader header⟩
  obtain ⟨st, hst, -, -, -, -, -, -, -, -, -, -, rfl⟩ := new_eq_ok h
  obtain ⟨recs, hrecs, rfl⟩ := cfg.loop_eq_ok.1 hst
  have hcoh : ∀ rec ∈ recs, rec.Coherent := fun rec hrec => by
    obtain ⟨row, hrow, hr⟩ := cfg.mem_of_mapM hrecs hrec
    exact cfg.coherent_of_inGrid (hgrid row hrow) hr
  have hkind : ∀ rec ∈ recs.filter (·.tile? == some (t, r, c)), rec.kind ≠ .STAT := by
    intro rec hrec
    cases rec <;> simp_all [Record.kind, Record.tile?]
  have hview : (recs.foldl cfg.apply .init).creditView (t, r, c) =
      (balance (keyKinds t r c rows), negativeEnds (keyKinds t r c rows)) := by
    rw [cfg.creditView_foldl hcoh, show TileStatsState.init.creditView (t, r, c) = (0, 0) from rfl,
      creditStep_foldl hkind, cfg.kinds_eq_keyKinds hgrid hrecs]
  obtain ⟨hcred, hwarn⟩ := Prod.mk.inj hview
  refine ⟨?_, fun n => ?_⟩
  · rw [List.count_append, List.count_eq_zero.2 (cfg.missingStart_not_mem_missingEndWarnings _ _ _ _),
      Nat.add_zero, hwarn]
  · rw [List.mem_append, or_iff_right (cfg.missingEnd_not_mem_foldl recs (by simp [TileStatsState.init])),
      cfg.missingEnd_mem_missingEndWarnings, hcred, ← unmatched_balance]
    by_cases hin : t < maxTags ∧ r < cfg.manycoreDimY ∧ c < cfg.manycoreDimX
    · omega
    · rw [unmatched_eq_zero_of_outside hgrid hin]
      omega

/-- End, Start, End, Start of tag `0` on a one-tile grid. -/
def endStartEndStart : List Row :=
  [rowOf [("y", 1), ("tag", 2 * 2 ^ 30)], rowOf [("y", 1), ("tag", 1 * 2 ^ 30)],
   rowOf [("y", 1), ("tag", 2 * 2 ^ 30)], rowOf [("y", 1), ("tag", 1 * 2 ^ 30)]]

theorem warnings_on_end_start_end_start :
    ∃ p out, VanillaStatsParser.new 1 1 ["x", "y", "tag"] endStartEndStart = .ok (p, out) ∧
      out.count (.missingStart 0 0 0) = negativeEnds (keyKinds 0 0 0 endStartEndStart) ∧
      ∀ n, Warning.missingEnd n 0 0 0 ∈ out ↔
        (unmatched (keyKinds 0 0 0 endStartEndStart)).2 < (unmatched (keyKinds 0 0 0 endStartEndStart)).1 ∧
          n = ((unmatched (keyKinds 0 0 0 endStartEndStart)).1 : ℤ) -
            (unmatched (keyKinds 0 0 0 endStartEndStart)).2 :=
  ⟨_, _, rfl, @warnings_of_unmatched 1 1 ["x", "y", "tag"] endStartEndStart _ _ (by decide) rfl 0 0 0⟩

/-- **The credit is a net balance.** In End, Start, End, Start the second Start is
left unmatched and so is the first End (the first Start takes the second End), but
the credit goes negative at both Ends and ends at `0`: two missing-start lines are
printed and no missing-end line. -/
theorem end_start_end_start_warnings :
    ∃ p out, VanillaStatsParser.new 1 1 ["x", "y", "tag"] endStartEndStart = .ok (p, out) ∧
      unmatched (keyKinds 0 0 0 endStartEndStart) = (1, 1) ∧
      out = [.missingStart 0 0 0, .missingStart 0 0 0] :=
  ⟨_, _, rfl, rfl, rfl⟩

end VanillaStats
