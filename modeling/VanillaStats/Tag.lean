import VanillaStats.Counter
import Mathlib.Data.Int.Bitwise
import Mathlib.Data.Nat.Bitwise

/-!
# `CudaStatTag`: the packed tag of a `bsg_cuda_print_stat`

A tag packs, from the most significant bits down, the stat type (2 bits), the
tile's `y` and `x` (6 bits each), its tile group id (14 bits) and the user tag
(4 bits). Each field is read as `(s >> index) & mask`; the type bits go through
`StatType(...)`, which raises `ValueError` on the unused code `3`.

* `land_mask`: Python's `&` with the all-ones mask `(1 << w) - 1` is the residue
  modulo `2 ^ w`, also for a negative `s`.
* `tag_lt`, `tgId_lt`, `x_lt`, `y_lt`: every field fits its width, whatever `s`.
* `decode_spec`: on the 32-bit tags the fields tile the word with no gap or
  overlap: decoding raises exactly on type bits `11`, otherwise the fields
  reassemble the tag, and every packing of in-range fields decodes back to them.
-/

namespace VanillaStats

/-- `CudaStatTag.StatType`. -/
inductive StatType where
  | STAT
  | START
  | END
  deriving DecidableEq, Repr

namespace StatType

/-- The member's `.value`. -/
def value : StatType → ℕ
  | STAT => 0
  | START => 1
  | END => 2

/-- `StatType(v)`: the member whose value is `v`. -/
def ofValue (v : ℤ) : Except PyError StatType :=
  if v = 0 then .ok STAT
  else if v = 1 then .ok START
  else if v = 2 then .ok END
  else .error .valueError

theorem ofValue_eq_ok {v : ℤ} {t : StatType} : ofValue v = .ok t ↔ v = t.value := by
  unfold ofValue
  cases t <;> split_ifs <;> simp_all [value]

theorem ofValue_eq_error {v : ℤ} {e : PyError} :
    ofValue v = .error e ↔ v ≠ 0 ∧ v ≠ 1 ∧ v ≠ 2 ∧ e = .valueError := by
  unfold ofValue
  split_ifs <;> simp_all [eq_comm]

end StatType

/-- A `CudaStatTag` object: the raw tag `__s` and its decoded `__type`. -/
structure CudaStatTag where
  s : ℤ
  statType : StatType

namespace CudaStatTag

def tagWidth : ℕ := 4
def tagIndex : ℕ := 0
def tagMask : ℕ := (1 <<< tagWidth) - 1
def tgIdWidth : ℕ := 14
def tgIdIndex : ℕ := tagWidth + tagIndex
def tgIdMask : ℕ := (1 <<< tgIdWidth) - 1
def xWidth : ℕ := 6
def xMask : ℕ := (1 <<< xWidth) - 1
def xIndex : ℕ := tgIdWidth + tgIdIndex
def yWidth : ℕ := 6
def yIndex : ℕ := xWidth + xIndex
def yMask : ℕ := (1 <<< yWidth) - 1
def typeWidth : ℕ := 2
def typeIndex : ℕ := yWidth + yIndex
def typeMask : ℕ := (1 <<< typeWidth) - 1

/-- `(s >> index) & mask`, with Python's arbitrary-precision `>>` and `&`. -/
def field (s : ℤ) (index mask : ℕ) : ℤ := Int.land (s >>> index) mask

/-- `CudaStatTag(tag)`. -/
def new (tag : ℤ) : Except PyError CudaStatTag := do
  let t ← StatType.ofValue (field tag typeIndex typeMask)
  pure ⟨tag, t⟩

/-- The `tag` property (non-negative, as every field is). -/
def tag (c : CudaStatTag) : ℕ := (field c.s tagIndex tagMask).toNat

/-- The `tg_id` property. -/
def tgId (c : CudaStatTag) : ℕ := (field c.s tgIdIndex tgIdMask).toNat

/-- The `x` property. -/
def x (c : CudaStatTag) : ℕ := (field c.s xIndex xMask).toNat

/-- The `y` property. -/
def y (c : CudaStatTag) : ℕ := (field c.s yIndex yMask).toNat

def isStart (c : CudaStatTag) : Bool := c.statType == .START

def isEnd (c : CudaStatTag) : Bool := c.statType == .END

def isStat (c : CudaStatTag) : Bool := c.statType == .STAT

@[simp] theorem isStart_eq_true (c : CudaStatTag) : c.isStart = true ↔ c.statType = .START := by
  simp [isStart]

@[simp] theorem isEnd_eq_true (c : CudaStatTag) : c.isEnd = true ↔ c.statType = .END := by
  simp [isEnd]

theorem ldiff_mask (w m : ℕ) : Nat.ldiff (2 ^ w - 1) m = 2 ^ w - 1 - m % 2 ^ w := by
  induction w generalizing m with
  | zero => simp [Nat.ldiff]
  | succ w ih =>
    obtain ⟨b, n, rfl⟩ : ∃ b n, Nat.bit b n = m := ⟨_, _, Nat.bit_decomp m⟩
    have hw : 2 ^ (w + 1) - 1 = Nat.bit true (2 ^ w - 1) := by
      rw [Nat.bit_val, pow_succ]; have := Nat.one_le_two_pow (n := w); simp; omega
    have hb := Bool.toNat_le b
    have hdiv : (2 * n + b.toNat) / 2 = n := by omega
    have hmod : Nat.bit b n % 2 ^ (w + 1) = b.toNat + 2 * (n % 2 ^ w) := by
      rw [pow_succ, mul_comm, Nat.mod_mul, Nat.bit_val, hdiv]; omega
    rw [hw, Nat.ldiff_bit, ih, hmod, Nat.bit_val, Nat.bit_val]
    have := Nat.mod_lt n (Nat.two_pow_pos w)
    cases b <;> simp <;> omega

/-- **Masking keeps the low bits**: `s & ((1 << w) - 1) = s % 2 ^ w` for every
integer `s`, negative ones included. -/
theorem land_mask (s : ℤ) (w : ℕ) : Int.land s ((1 <<< w) - 1 : ℕ) = s % 2 ^ w := by
  rw [Nat.one_shiftLeft]
  cases s with
  | ofNat a =>
    show ((a &&& (2 ^ w - 1) : ℕ) : ℤ) = _
    rw [Nat.and_pow_two_sub_one_eq_mod]; push_cast; rfl
  | negSucc m =>
    show ((Nat.ldiff (2 ^ w - 1) m : ℕ) : ℤ) = _
    rw [ldiff_mask, Int.negSucc_emod m (by exact_mod_cast Nat.two_pow_pos w)]
    have h1 := Nat.mod_lt m (Nat.two_pow_pos w)
    have h2 := Nat.one_le_two_pow (n := w)
    rw [Nat.cast_sub (by omega), Nat.cast_sub h2]
    push_cast
    rfl

theorem field_eq (s : ℤ) (index w : ℕ) : field s index ((1 <<< w) - 1) = s / 2 ^ index % 2 ^ w := by
  rw [field, land_mask, Int.shiftRight_eq_div_pow]; push_cast; rfl

@[simp] theorem field_tag (s : ℤ) : field s tagIndex tagMask = s % 16 := by
  simpa using field_eq s 0 4
@[simp] theorem field_tgId (s : ℤ) : field s tgIdIndex tgIdMask = s / 16 % 16384 := by
  simpa using field_eq s 4 14
@[simp] theorem field_x (s : ℤ) : field s xIndex xMask = s / 262144 % 64 := by
  simpa using field_eq s 18 6
@[simp] theorem field_y (s : ℤ) : field s yIndex yMask = s / 16777216 % 64 := by
  simpa using field_eq s 24 6
@[simp] theorem field_type (s : ℤ) : field s typeIndex typeMask = s / 1073741824 % 4 := by
  simpa using field_eq s 30 2

theorem new_eq_ok {raw : ℤ} {c : CudaStatTag} :
    new raw = .ok c ↔ c.s = raw ∧ raw / 1073741824 % 4 = c.statType.value := by
  simp only [new, bind_eq_ok, field_type, StatType.ofValue_eq_ok, pure, Except.pure, Except.ok.injEq]
  constructor
  · rintro ⟨t, ht, rfl⟩; exact ⟨rfl, ht⟩
  · rintro ⟨hs, ht⟩; exact ⟨c.statType, ht, by cases c; simp_all⟩

theorem new_eq_error {raw : ℤ} {e : PyError} :
    new raw = .error e ↔ raw / 1073741824 % 4 = 3 ∧ e = .valueError := by
  have h4 := Int.emod_nonneg (raw / 1073741824) (by decide : (4 : ℤ) ≠ 0)
  have h4' := Int.emod_lt_of_pos (raw / 1073741824) (by decide : (0 : ℤ) < 4)
  simp only [new, bind_eq_error, field_type, StatType.ofValue_eq_error, pure, Except.pure,
    reduceCtorEq, and_false, exists_false, or_false]
  constructor
  · rintro ⟨h0, h1, h2, rfl⟩; exact ⟨by omega, rfl⟩
  · rintro ⟨h3, rfl⟩; exact ⟨by omega, by omega, by omega, rfl⟩

theorem tag_eq (c : CudaStatTag) : (c.tag : ℤ) = c.s % 16 := by
  simp only [tag, field_tag]; exact Int.toNat_of_nonneg (Int.emod_nonneg _ (by decide))

theorem tgId_eq (c : CudaStatTag) : (c.tgId : ℤ) = c.s / 16 % 16384 := by
  simp only [tgId, field_tgId]; exact Int.toNat_of_nonneg (Int.emod_nonneg _ (by decide))

theorem x_eq (c : CudaStatTag) : (c.x : ℤ) = c.s / 262144 % 64 := by
  simp only [x, field_x]; exact Int.toNat_of_nonneg (Int.emod_nonneg _ (by decide))

theorem y_eq (c : CudaStatTag) : (c.y : ℤ) = c.s / 16777216 % 64 := by
  simp only [y, field_y]; exact Int.toNat_of_nonneg (Int.emod_nonneg _ (by decide))

theorem tag_lt (c : CudaStatTag) : c.tag < 16 := by have := tag_eq c; omega

theorem tgId_lt (c : CudaStatTag) : c.tgId < 16384 := by have := tgId_eq c; omega

theorem x_lt (c : CudaStatTag) : c.x < 64 := by have := x_eq c; omega

theorem y_lt (c : CudaStatTag) : c.y < 64 := by have := y_eq c; omega

theorem raises_iff (raw : ℕ) :
    (∃ e, new raw = .error e) ↔ raw.testBit 31 ∧ raw.testBit 30 := by
  simp only [new_eq_error, exists_eq_right, Nat.testBit_to_div_mod, decide_eq_true_eq]
  omega

theorem reassemble {raw : ℤ} {c : CudaStatTag} (h : new raw = .ok c) (h0 : 0 ≤ raw)
    (h1 : raw < 2 ^ 32) :
    raw = c.statType.value * 2 ^ 30 + c.y * 2 ^ 24 + c.x * 2 ^ 18 + c.tgId * 2 ^ 4 + c.tag := by
  obtain ⟨rfl, ht⟩ := new_eq_ok.1 h
  have := tag_eq c; have := tgId_eq c; have := x_eq c; have := y_eq c
  omega

theorem new_pack {k y x g s : ℕ} (hk : k < 3) (hy : y < 64) (hx : x < 64) (hg : g < 16384)
    (hs : s < 16) :
    ∃ c, new (k * 2 ^ 30 + y * 2 ^ 24 + x * 2 ^ 18 + g * 2 ^ 4 + s : ℕ) = .ok c ∧
      c.statType.value = k ∧ c.y = y ∧ c.x = x ∧ c.tgId = g ∧ c.tag = s := by
  obtain ⟨t, rfl⟩ : ∃ t : StatType, t.value = k := by
    rcases (by omega : k = 0 ∨ k = 1 ∨ k = 2) with rfl | rfl | rfl
    exacts [⟨.STAT, rfl⟩, ⟨.START, rfl⟩, ⟨.END, rfl⟩]
  set c : CudaStatTag := ⟨(t.value * 2 ^ 30 + y * 2 ^ 24 + x * 2 ^ 18 + g * 2 ^ 4 + s : ℕ), t⟩
  refine ⟨c, new_eq_ok.2 ⟨rfl, ?_⟩, rfl, Int.ofNat_inj.1 ((y_eq c).trans ?_),
    Int.ofNat_inj.1 ((x_eq c).trans ?_), Int.ofNat_inj.1 ((tgId_eq c).trans ?_),
    Int.ofNat_inj.1 ((tag_eq c).trans ?_)⟩ <;> simp only [c] <;> push_cast <;> omega

/-- **Decoding a 32-bit tag.** `CudaStatTag(raw)` raises exactly when both type
bits are set; otherwise its fields are in range and reassemble `raw`; and every
packing of a type value below `3` and in-range fields decodes to those fields. -/
theorem decode_spec :
    (∀ raw : ℕ, raw < 2 ^ 32 →
      ((∃ e, new raw = .error e) ↔ raw.testBit 31 ∧ raw.testBit 30) ∧
      ∀ c, new raw = .ok c → c.y < 64 ∧ c.x < 64 ∧ c.tgId < 16384 ∧ c.tag < 16 ∧
        raw = c.statType.value * 2 ^ 30 + c.y * 2 ^ 24 + c.x * 2 ^ 18 + c.tgId * 2 ^ 4 + c.tag) ∧
    ∀ k y x g s : ℕ, k < 3 → y < 64 → x < 64 → g < 16384 → s < 16 →
      ∃ c, new (k * 2 ^ 30 + y * 2 ^ 24 + x * 2 ^ 18 + g * 2 ^ 4 + s : ℕ) = .ok c ∧
        c.statType.value = k ∧ c.y = y ∧ c.x = x ∧ c.tgId = g ∧ c.tag = s := by
  refine ⟨fun raw h => ⟨raises_iff raw, fun c hc => ⟨y_lt c, x_lt c, tgId_lt c, tag_lt c, ?_⟩⟩,
    fun _ _ _ _ _ => new_pack⟩
  exact_mod_cast reassemble hc (Int.natCast_nonneg raw) (by exact_mod_cast h)

/-- **Decoding reads the low 32 bits only.** For every integer `raw`, negative or
wider than the word included, `CudaStatTag(raw)` raises exactly when
`CudaStatTag(raw % 2 ** 32)` does, and otherwise has the same type, `y`, `x`,
`tg_id` and `tag`: Python's `>>` and `&` on a negative `raw` read its two's
complement, so a tag printed as a signed 32-bit integer decodes as the unsigned
one. -/
theorem new_reads_low_word (raw : ℤ) :
    (new raw).map (fun c => (c.statType, c.y, c.x, c.tgId, c.tag)) =
      (new (raw % 2 ^ 32)).map fun c => (c.statType, c.y, c.x, c.tgId, c.tag) := by
  have hty : raw / 1073741824 % 4 = raw % 2 ^ 32 / 1073741824 % 4 := by omega
  simp only [new, field_type, hty]
  cases StatType.ofValue (raw % 2 ^ 32 / 1073741824 % 4) with
  | error e => rfl
  | ok t =>
    simp only [Except.map, bind, Except.bind, pure, Except.pure, y, x, tgId, tag, field_y, field_x,
      field_tgId, field_tag, Except.ok.injEq, Prod.mk.injEq, true_and]
    refine ⟨?_, ?_, ?_, ?_⟩ <;> congr 1 <;> omega

end CudaStatTag

end VanillaStats
