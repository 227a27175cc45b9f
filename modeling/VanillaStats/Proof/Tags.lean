import VanillaStats.Proof.Group

/-!
# Tags do not mix

Every table of the loop is indexed by the tag field first, the credits and the
missing-start lines name the tag of the End that prints them, and the
missing-end lines are printed tag by tag. So what the constructor reports for a
tag `t` is what it reports on the lines of tag field `t` alone.

* `TileStatsState.onTag`: tag `t`'s part of the loop state, the other tags
  cleared.
* `onTag_apply`, `onTag_foldlM`: one line of another tag leaves tag `t`'s part as
  it is and a line of tag `t` acts on it as on the whole state; so the loop run on
  tag `t`'s lines ends in the tag-`t` part of the full run.
* `tags_do_not_mix`: construction on the lines of tag field `t` completes when
  construction does, with the same tile, work-group and grid tables and
  `num_tile_groups` for `t`, and prints exactly the warnings of tag `t`.
-/

namespace VanillaStats

/-- The tag field a Start or End writes. -/
def Record.tag? (r : Record) : Option ℕ := r.tile?.map (·.1)

/-- The tag a warning names. -/
def Warning.tag : Warning → ℕ
  | .missingStart tag _ _ => tag
  | .missingEnd _ tag _ _ => tag

@[simp] theorem Warning.tag_missingStart (tag : ℕ) (x y : ℤ) :
    (Warning.missingStart tag x y).tag = tag := rfl

@[simp] theorem Warning.tag_missingEnd (c : ℤ) (tag x y : ℕ) :
    (Warning.missingEnd c tag x y).tag = tag := rfl

/-- Tag `t`'s part of `st`: its tables, counts and credits, the other tags'
cleared, and the warnings that name `t`. -/
def TileStatsState.onTag (st : TileStatsState) (t : ℕ) : TileStatsState :=
  ⟨st.numTags, fun t' => if t' = t then st.numTileGroups t' else 0,
    fun k => if k.1 = t then st.tileStatStart k else .empty,
    fun k => if k.1 = t then st.tileStatEnd k else .empty,
    fun g => if g.1 = t then st.tileGroupStatStart g else .empty,
    fun g => if g.1 = t then st.tileGroupStatEnd g else .empty,
    fun k => if k.1 = t then st.tagCredits k else 0,
    st.out.filter (·.tag == t)⟩

/-- Clearing the entries outside `P` commutes with a write inside `P` and forgets
a write outside it. -/
theorem ite_update {α β : Type} [DecidableEq α] (P : α → Prop) [DecidablePred P] (f : α → β)
    (d : β) (k : α) (v : β) :
    (fun k' => if P k' then Function.update f k v k' else d) =
      if P k then Function.update (fun k' => if P k' then f k' else d) k v
      else fun k' => if P k' then f k' else d := by
  funext k'
  by_cases h : k' = k
  · subst h; split_ifs <;> simp [*]
  · split_ifs <;> simp [Function.update_noteq h, *]

theorem onTag_init (t : ℕ) : TileStatsState.init.onTag t = .init := by
  simp only [TileStatsState.onTag, TileStatsState.init, ite_self, List.filter_nil]

namespace Config

variable (cfg : Config)

/-- A line's reading writes its work group and tile under one tag, the tag field
of the line. -/
theorem record_tag {row : Row} {r : Record} (h : cfg.record row = .ok r) :
    r.group?.map (·.1) = r.tag? ∧
      (r = .stat ∨ ∃ n : ℕ, r.tag? = some n ∧ (n : ℤ) = row "tag" % 16) := by
  obtain ⟨-, -, -, cst, hc, hcases⟩ := cfg.record_eq_ok.1 h
  have htag : (cst.tag : ℤ) = row "tag" % 16 := by
    rw [CudaStatTag.tag_eq, (CudaStatTag.new_eq_ok.1 hc).1]
  rcases hcases with ⟨-, -, rfl⟩ | ⟨k, hk, ⟨-, rfl⟩ | ⟨-, -, rfl⟩⟩
  · exact ⟨rfl, .inl rfl⟩
  all_goals
    obtain ⟨hk1, -, -⟩ := cfg.tileIndex_eq_ok.1 hk
    exact ⟨by simp [Record.group?, Record.tag?, Record.tile?, hk1],
      .inr ⟨cst.tag, by simp [Record.tag?, Record.tile?, hk1], htag⟩⟩

/-- **One step on tag `t`'s part.** A record of tag `t` acts on the part as on the
whole state; any other record leaves the part as it is. -/
theorem onTag_apply (st : TileStatsState) {r : Record} (hr : r.group?.map (·.1) = r.tag?)
    (t : ℕ) :
    (cfg.apply st r).onTag t = if r.tag? = some t then cfg.apply (st.onTag t) r else st.onTag t := by
  cases r with
  | stat => rfl
  | startAt k g trace =>
    simp only [Record.group?, Record.tag?, Record.tile?, Option.map_some', Option.some.injEq] at hr ⊢
    by_cases hc : (st.tileGroupStatStart g).isEmpty <;> by_cases hk : k.1 = t <;>
      simp [TileStatsState.onTag, apply, ite_update, hc, hk, hr, maxTileGroups_ne_zero]
  | endAt k g trace x y =>
    simp only [Record.group?, Record.tag?, Record.tile?, Option.map_some', Option.some.injEq] at hr ⊢
    by_cases hc : st.tagCredits k - 1 < 0 <;> by_cases hk : k.1 = t <;>
      simp [TileStatsState.onTag, apply, ite_update, hc, hk, hr]

/-- **The loop on tag `t`'s lines runs tag `t`'s part of the loop**, from any
state: lines of another tag are skipped by it and leave that part unchanged. -/
theorem onTag_foldlM (t : ℕ) {rows : List Row} {s0 s : TileStatsState}
    (h : rows.foldlM cfg.generateTileStatsStep s0 = .ok s) :
    (rows.filter fun row => row "tag" % 16 = (t : ℤ)).foldlM cfg.generateTileStatsStep (s0.onTag t) =
      .ok (s.onTag t) := by
  induction rows generalizing s0 with
  | nil => cases h; rfl
  | cons row rows ih =>
    rw [List.foldlM_cons, step_eq] at h
    obtain ⟨s1, hs1, hrest⟩ := bind_eq_ok.1 h
    rcases hr : cfg.record row with e | r
    · rw [hr] at hs1; cases hs1
    rw [hr] at hs1; cases hs1
    obtain ⟨hcoh, hcases⟩ := cfg.record_tag hr
    have hstep := cfg.onTag_apply s0 hcoh t
    by_cases hq : row "tag" % 16 = t
    · have hr' : cfg.apply (s0.onTag t) r = (cfg.apply s0 r).onTag t := by
        rcases hcases with rfl | ⟨n, hn, hn'⟩
        · rfl
        · obtain rfl : n = t := by omega
          rw [hstep, if_pos hn]
      rw [List.filter_cons_of_pos (by simpa using hq), List.foldlM_cons, step_eq, hr]
      simpa only [Except.map, bind, Except.bind, hr'] using ih hrest
    · have hr' : (cfg.apply s0 r).onTag t = s0.onTag t := by
        rw [hstep, if_neg]
        rcases hcases with rfl | ⟨n, hn, hn'⟩
        · simp [Record.tag?, Record.tile?]
        · rw [hn, Option.some.injEq]; omega
      rw [List.filter_cons_of_neg (by simpa using hq), ← hr']
      exact ih hrest

theorem tileStatOf_onTag (st : TileStatsState) (t y x : ℕ) :
    cfg.tileStatOf (st.onTag t) (t, y, x) = cfg.tileStatOf st (t, y, x) := by
  simp [tileStatOf, TileStatsState.onTag]

theorem tileGroupStatOf_onTag (st : TileStatsState) (t g : ℕ) :
    cfg.tileGroupStatOf (st.onTag t) (t, g) = cfg.tileGroupStatOf st (t, g) := by
  simp [tileGroupStatOf, TileStatsState.onTag]

/-- The missing-end check on tag `t`'s part prints the tag-`t` lines of the full
check: the other tags' credits are cleared. -/
theorem missingEndWarnings_onTag (st : TileStatsState) (t : ℕ) :
    cfg.missingEndWarnings (st.onTag t) = (cfg.missingEndWarnings st).filter (·.tag == t) := by
  simp only [missingEndWarnings, List.filter_flatMap, List.filter_filterMap]
  refine List.flatMap_congr fun tag _ => List.flatMap_congr fun y _ =>
    List.filterMap_congr fun x _ => ?_
  by_cases htag : tag = t
  · simp only [TileStatsState.onTag, htag, eq_self_iff_true, if_true]
    split_ifs <;> simp [Option.filter_some]
  · simp only [TileStatsState.onTag, htag, if_false, gt_iff_lt, lt_self_iff_false]
    split_ifs <;> simp [Option.filter_some, htag]

end Config

/-- **Tags do not mix.** If construction completes on a trace, then for every
tag `t` it completes on the lines of tag field `t` alone, printing exactly the
warnings of the full run that name `t`, and with the same tile, work-group and
grid tables and the same `num_tile_groups` for `t`. -/
theorem tags_do_not_mix {dimY dimX : ℕ} {header : List String} {rows : List Row}
    {p : VanillaStatsParser} {out : List Warning}
    (h : VanillaStatsParser.new dimY dimX header rows = .ok (p, out)) (t : ℕ) :
    ∃ p', VanillaStatsParser.new dimY dimX header (rows.filter fun row => row "tag" % 16 = (t : ℤ)) =
        .ok (p', out.filter (·.tag == t)) ∧
      (∀ y x, p'.tileStat (t, y, x) = p.tileStat (t, y, x)) ∧
      (∀ g, p'.tileGroupStat (t, g) = p.tileGroupStat (t, g)) ∧
      p'.numTileGroups t = p.numTileGroups t ∧ p'.manycoreStat t = p.manycoreStat t := by
  set cfg : Config := ⟨dimY, dimX, parseHeader header⟩
  obtain ⟨st, hst, -, hng, htile, hgroup, hmany, -, -, -, -, -, hout⟩ := new_eq_ok h
  have hloop := cfg.onTag_foldlM t hst
  rw [onTag_init] at hloop
  obtain ⟨p', out', h'⟩ : ∃ p' out', VanillaStatsParser.new dimY dimX header
      (rows.filter fun row => row "tag" % 16 = (t : ℤ)) = .ok (p', out') := by
    simp only [VanillaStatsParser.new, Config.generateTileStats, Config.generateTileStatsLoop]
    rw [hloop]
    exact ⟨_, _, rfl⟩
  obtain ⟨st', hst', -, hng', htile', hgroup', hmany', -, -, -, -, -, hout'⟩ := new_eq_ok h'
  obtain rfl := Except.ok.inj (hst'.symm.trans hloop)
  have htiles : ∀ y x, p'.tileStat (t, y, x) = p.tileStat (t, y, x) := fun y x => by
    rw [htile, htile', cfg.tileStatOf_onTag]
  refine ⟨p', ?_, htiles, fun g => ?_, ?_, ?_⟩
  · rw [h', hout', hout, List.filter_append, cfg.missingEndWarnings_onTag]
    rfl
  · rw [hgroup, hgroup', cfg.tileGroupStatOf_onTag]
  · simp [hng, hng', TileStatsState.onTag]
  · rw [hmany, hmany', ← htile, ← htile']
    simp only [generateManycoreStatsAll, htiles]

/-- A window of tag `0` around a window of tag `1`, on a one-tile grid. -/
def twoTagWindow : List Row :=
  [rowOf [("y", 1), ("tag", 1 * 2 ^ 30), ("global_ctr", 0)],
   rowOf [("y", 1), ("tag", 1 * 2 ^ 30 + 1), ("global_ctr", 3)],
   rowOf [("y", 1), ("tag", 2 * 2 ^ 30 + 1), ("global_ctr", 5)],
   rowOf [("y", 1), ("tag", 2 * 2 ^ 30), ("global_ctr", 10)]]

theorem tag_one_of_two_tag_window :
    ∃ p out, VanillaStatsParser.new 1 1 ["x", "y", "tag", "global_ctr"] twoTagWindow = .ok (p, out) ∧
      ∃ p', VanillaStatsParser.new 1 1 ["x", "y", "tag", "global_ctr"]
          (twoTagWindow.filter fun row => row "tag" % 16 = ((1 : ℕ) : ℤ)) =
          .ok (p', out.filter (·.tag == 1)) ∧
        (∀ y x, p'.tileStat (1, y, x) = p.tileStat (1, y, x)) ∧
        (∀ g, p'.tileGroupStat (1, g) = p.tileGroupStat (1, g)) ∧
        p'.numTileGroups 1 = p.numTileGroups 1 ∧ p'.manycoreStat 1 = p.manycoreStat 1 :=
  ⟨_, _, rfl, @tags_do_not_mix 1 1 ["x", "y", "tag", "global_ctr"] twoTagWindow _ _ rfl 1⟩

end VanillaStats
