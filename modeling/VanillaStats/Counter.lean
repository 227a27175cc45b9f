import Mathlib.Data.List.Nodup
import Mathlib.Tactic.Ring

/-!
# Python's `collections.Counter` and list subscripts

Every table of counts in `vanilla_stats_parser.py` is a `Counter`: a dictionary
from column names to integers, in insertion order, that reads `0` at a name it
does not hold (without inserting it). `not c` is true only when nothing was ever
inserted. A `Counter` is its key list and its count function, with the
dictionary's invariants as fields.

* `count_set`, `count_setEach`, `count_addEach`: what the parser's writes leave.
* `count_sub`: `a - b` keeps only positive differences, so at every name it reads
  `max 0 (a[k] - b[k])`.
* `pyIndex_eq_ok`: `l[i]` on a list of length `n` reaches index `j` exactly when
  `i = j` or `i = j - n`.
-/

namespace VanillaStats

/-- The exceptions the parser can raise. -/
inductive PyError where
  | keyError (key : String)
  | valueError
  | indexError
  | zeroDivisionError
  | fileNotFoundError
  deriving DecidableEq, Repr

theorem bind_eq_ok {ε α β : Type} {x : Except ε α} {f : α → Except ε β} {b : β} :
    x >>= f = .ok b ↔ ∃ a, x = .ok a ∧ f a = .ok b := by
  cases x <;> simp [bind, Except.bind]

theorem bind_eq_error {ε α β : Type} {x : Except ε α} {f : α → Except ε β} {e : ε} :
    x >>= f = .error e ↔ x = .error e ∨ ∃ a, x = .ok a ∧ f a = .error e := by
  cases x <;> simp [bind, Except.bind]

/-- A `collections.Counter` keyed by column names. -/
structure Counter where
  /-- The inserted names, in insertion order. -/
  keys : List String
  /-- `c[k]`. -/
  count : String → ℤ
  nodup : keys.Nodup
  count_eq_zero : ∀ k, k ∉ keys → count k = 0

namespace Counter

/-- `Counter()`. -/
def empty : Counter := ⟨[], fun _ => 0, List.nodup_nil, fun _ _ => rfl⟩

/-- `c[k] = v`: overwrites `k`, appending it to the keys when new. -/
def set (c : Counter) (k : String) (v : ℤ) : Counter where
  keys := if k ∈ c.keys then c.keys else c.keys ++ [k]
  count := Function.update c.count k v
  nodup := by
    split_ifs with h
    · exact c.nodup
    · exact c.nodup.append (List.nodup_singleton k) (by simpa using h)
  count_eq_zero := fun k' hk' => by
    have hne : k' ≠ k := fun he => hk' (by subst he; split_ifs <;> simp_all)
    rw [Function.update_noteq hne]
    exact c.count_eq_zero k' fun hm => hk' (by split_ifs <;> simp [hm])

/-- `not c`. -/
def isEmpty (c : Counter) : Bool := c.keys.isEmpty

/-- `for op in ops: c[op] = v[op]`. -/
def setEach (c : Counter) (ops : List String) (v : String → ℤ) : Counter :=
  ops.foldl (fun c op => c.set op (v op)) c

/-- `for op in ops: c[op] += v[op]`. -/
def addEach (c : Counter) (ops : List String) (v : String → ℤ) : Counter :=
  ops.foldl (fun c op => c.set op (c.count op + v op)) c

/-- `a - b`, as `Counter.__sub__` computes it: a name of `a` is kept when its
difference is positive, and a name only `b` holds is kept, negated, when its count
is negative. -/
def sub (a b : Counter) : Counter :=
  let r := a.keys.foldl
    (fun r e => if a.count e - b.count e > 0 then r.set e (a.count e - b.count e) else r) empty
  b.keys.foldl (fun r e => if e ∉ a.keys ∧ b.count e < 0 then r.set e (0 - b.count e) else r) r

instance : Sub Counter := ⟨sub⟩

@[simp] theorem count_empty (k : String) : empty.count k = 0 := rfl

@[simp] theorem isEmpty_empty : empty.isEmpty = true := rfl

@[simp] theorem count_set (c : Counter) (k v k') :
    (c.set k v).count k' = if k' = k then v else c.count k' :=
  Function.update_apply _ _ _ _

@[simp] theorem isEmpty_set (c : Counter) (k v) : (c.set k v).isEmpty = false := by
  simp only [isEmpty, set, List.isEmpty_eq_false_iff_exists_mem]
  split_ifs with h
  · exact ⟨k, h⟩
  · exact ⟨k, by simp⟩

theorem count_setEach (c : Counter) (ops : List String) (v : String → ℤ) (k : String) :
    (c.setEach ops v).count k = if k ∈ ops then v k else c.count k := by
  induction ops generalizing c with
  | nil => simp [setEach]
  | cons op ops ih =>
    simp only [setEach, List.foldl_cons] at ih ⊢
    rw [ih]
    by_cases h : k ∈ ops <;> by_cases h' : k = op <;> simp [h, h']

theorem count_addEach (c : Counter) (ops : List String) (v : String → ℤ) (k : String) :
    (c.addEach ops v).count k = c.count k + ops.count k * v k := by
  induction ops generalizing c with
  | nil => simp [addEach]
  | cons op ops ih =>
    simp only [addEach, List.foldl_cons] at ih ⊢
    rw [ih, List.count_cons, count_set]
    by_cases h : k = op
    · subst h; simp only [beq_self_eq_true, if_true]; push_cast; ring
    · simp [h, Ne.symm h]

theorem isEmpty_addEach (c : Counter) (ops : List String) (v : String → ℤ) :
    (c.addEach ops v).isEmpty = (c.isEmpty && ops.isEmpty) := by
  induction ops generalizing c with
  | nil => simp [addEach]
  | cons op ops ih =>
    simp only [addEach, List.foldl_cons] at ih ⊢
    rw [ih]; simp

/-- A loop that writes `g e` at the names `e` of `l` passing `p`. -/
theorem count_foldl_set (l : List String) (p : String → Prop) [DecidablePred p]
    (g : String → ℤ) (r : Counter) (k : String) :
    (l.foldl (fun r e => if p e then r.set e (g e) else r) r).count k =
      if k ∈ l ∧ p k then g k else r.count k := by
  induction l generalizing r with
  | nil => simp
  | cons e l ih =>
    rw [List.foldl_cons, ih]
    by_cases hk : k = e
    · subst hk; by_cases hp : p k <;> simp [hp]
    · by_cases hp : p e <;> simp [hp, hk]

theorem count_sub (a b : Counter) (k : String) : (a - b).count k = max 0 (a.count k - b.count k) := by
  show (sub a b).count k = _
  simp only [sub, gt_iff_lt]
  rw [count_foldl_set _ (fun e => e ∉ a.keys ∧ b.count e < 0),
    count_foldl_set _ (fun e => 0 < a.count e - b.count e)]
  by_cases ha : k ∈ a.keys
  · simp [ha, max_def]; split_ifs <;> omega
  · have h0 := a.count_eq_zero k ha
    by_cases hb : k ∈ b.keys
    · simp [ha, hb, h0, max_def]; split_ifs <;> omega
    · simp [ha, hb, h0, b.count_eq_zero k hb]

end Counter

/-- `l[i]` on a list of length `n`, as CPython reads a subscript: a negative `i`
counts back from the end, and an index still outside `[0, n)` raises. -/
def pyIndex (n : ℕ) (i : ℤ) : Except PyError ℕ :=
  let j := if i < 0 then i + n else i
  if 0 ≤ j ∧ j < n then .ok j.toNat else .error .indexError

theorem pyIndex_eq_ok {n : ℕ} {i : ℤ} {j : ℕ} :
    pyIndex n i = .ok j ↔ j < n ∧ (i = j ∨ i = j - n) := by
  unfold pyIndex
  by_cases h1 : i < 0 <;> simp only [h1, if_true, if_false] <;> split_ifs <;>
    simp only [Except.ok.injEq, reduceCtorEq, false_iff, not_and] <;> omega

/-- `l[i]` on a Python list, through `pyIndex`. -/
def pyGetItem {α : Type} (l : List α) (i : ℤ) : Except PyError α := do
  let j ← pyIndex l.length i
  match l[j]? with
  | some a => pure a
  | none => .error .indexError

end VanillaStats
