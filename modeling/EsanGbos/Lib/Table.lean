import Mathlib.Algebra.GroupWithZero.Nat
import Mathlib.Data.List.Nodup
import Mathlib.Data.List.Basic
import Mathlib.Data.List.Sort
import EsanGbos.Lib.Proc

/-!
# Keyed tables and dictionaries

A table is a list of rows in insertion order whose keys never repeat. The order
is kept because a scan of the rows can be observed; the key constraint is a field,
so no operation can build a table that violates it. A dictionary is the table of
its entries.

## Main definitions

* `Table.get?`, `Table.update`, `Table.insert` — lookup by key, `UPDATE ... WHERE`
  and `INSERT` of a row with a fresh key.
* `Dict.get?`, `Dict.set` — a mapping whose assignment replaces in place.
* `Dict.updateChecked` — an update that one refused row refuses.
-/
namespace Lib

universe u v
variable {ρ : Type u} {κ : Type v}

/-- Rows in insertion order, with pairwise distinct keys. -/
structure Table (key : ρ → κ) where
  rows : List ρ
  nodup : (rows.map key).Nodup

namespace Table
variable {key : ρ → κ}

def empty (key : ρ → κ) : Table key := ⟨[], List.nodup_nil⟩

@[simp] theorem rows_empty : (empty key).rows = [] := rfl

/-- Two rows of a table with one key are the same row. -/
theorem eq_of_key (t : Table key) {r r' : ρ} (hr : r ∈ t.rows) (hr' : r' ∈ t.rows)
    (h : key r = key r') : r = r' :=
  List.inj_on_of_nodup_map t.nodup hr hr' h

/-- `UPDATE ... SET f WHERE p`, for an assignment that leaves the key alone. -/
def update (t : Table key) (p : ρ → Bool) (f : ρ → ρ)
    (hf : ∀ r, key (f r) = key r := by intros; rfl) : Table key where
  rows := t.rows.map fun r => if p r then f r else r
  nodup := by
    have hkey : ∀ r : ρ, key (if p r then f r else r) = key r := by
      intro r; split
      · exact hf r
      · rfl
    simpa only [List.map_map, Function.comp_def, hkey] using t.nodup

theorem mem_update {t : Table key} {p : ρ → Bool} {f : ρ → ρ} {hf : ∀ r, key (f r) = key r}
    {r : ρ} : r ∈ (t.update p f hf).rows ↔ ∃ r₀ ∈ t.rows, r = if p r₀ then f r₀ else r₀ := by
  simp only [update, List.mem_map, eq_comm]

/-- `INSERT` of a row whose key is not in the table yet. -/
def insert (t : Table key) (r : ρ) (hr : key r ∉ t.rows.map key) : Table key where
  rows := t.rows ++ [r]
  nodup := by
    rw [List.map_append, List.map_cons, List.map_nil, List.nodup_append]
    refine ⟨t.nodup, List.nodup_singleton _, ?_⟩
    rintro k hk _ hk' rfl
    rw [List.mem_singleton] at hk'
    exact hr (hk' ▸ hk)

@[simp] theorem mem_insert {t : Table key} {r r' : ρ} {hr : key r ∉ t.rows.map key} :
    r' ∈ (t.insert r hr).rows ↔ r' ∈ t.rows ∨ r' = r := by
  simp [insert]

variable [DecidableEq κ]

def get? (t : Table key) (k : κ) : Option ρ := t.rows.find? fun r => key r = k

@[simp] theorem get?_empty (k : κ) : (empty key).get? k = none := rfl

theorem get?_eq_some {t : Table key} {k : κ} {r : ρ} :
    t.get? k = some r ↔ r ∈ t.rows ∧ key r = k := by
  constructor
  · intro h
    exact ⟨List.mem_of_find?_eq_some h, by simpa using List.find?_some h⟩
  · rintro ⟨hr, rfl⟩
    cases h : t.get? (key r) with
    | none => simp [get?, List.find?_eq_none] at h; exact absurd rfl (h r hr)
    | some r' =>
        have hk : key r' = key r := by simpa using List.find?_some h
        rw [t.eq_of_key (List.mem_of_find?_eq_some h) hr hk]

theorem get?_eq_none {t : Table key} {k : κ} :
    t.get? k = none ↔ ∀ r ∈ t.rows, key r ≠ k := by
  simp [get?, List.find?_eq_none]

theorem get?_of_mem {t : Table key} {r : ρ} (h : r ∈ t.rows) : t.get? (key r) = some r :=
  get?_eq_some.mpr ⟨h, rfl⟩

theorem key_notMem_of_get?_eq_none {t : Table key} {k : κ} (h : t.get? k = none) :
    k ∉ t.rows.map key := by
  intro hk
  obtain ⟨r, hr, rfl⟩ := List.mem_map.mp hk
  exact get?_eq_none.mp h r hr rfl

@[simp] theorem get?_update (t : Table key) (p : ρ → Bool) (f : ρ → ρ)
    (hf : ∀ r, key (f r) = key r) (k : κ) :
    (t.update p f hf).get? k = (t.get? k).map fun r => if p r then f r else r := by
  have hkey : ∀ r : ρ, key (if p r then f r else r) = key r := by
    intro r; split
    · exact hf r
    · rfl
  simp only [get?, update, List.find?_map, Function.comp_def, hkey]

@[simp] theorem get?_insert (t : Table key) (r : ρ) (hr : key r ∉ t.rows.map key) (k : κ) :
    (t.insert r hr).get? k = if key r = k then some r else t.get? k := by
  simp only [get?, insert, List.find?_append]
  by_cases h : key r = k
  · have hnone : t.rows.find? (fun r => key r = k) = none := by
      rw [List.find?_eq_none]
      intro r' hr' hk
      exact hr (List.mem_map.mpr ⟨r', hr', by rw [h]; simpa using hk⟩)
    simp [h, hnone]
  · simp [h]

/-- `INSERT` guarded by its own uniqueness check. -/
def insert? (t : Table key) (r : ρ) : Option (Table key) :=
  if h : key r ∉ t.rows.map key then some (t.insert r h) else none

end Table

/-- A mapping as the table of its entries. -/
structure Dict (κ : Type v) (ν : Type u) where
  entries : Table (Prod.fst : κ × ν → κ)

namespace Dict
variable {ν : Type u}

def empty : Dict κ ν := ⟨Table.empty Prod.fst⟩

/-- The entries in the order their keys were first assigned. -/
def items (d : Dict κ ν) : List (κ × ν) := d.entries.rows

/-- The values in the same order. -/
def values (d : Dict κ ν) : List ν := d.entries.rows.map Prod.snd

variable [DecidableEq κ]

def get? (d : Dict κ ν) (k : κ) : Option ν := (d.entries.get? k).map Prod.snd

/-- `d[k] = v`: a present key keeps its place, a new one goes last. -/
def set (d : Dict κ ν) (k : κ) (v : ν) : Dict κ ν where
  entries :=
    if h : k ∈ d.entries.rows.map Prod.fst then
      d.entries.update (fun e => e.1 = k) fun e => (e.1, v)
    else d.entries.insert (k, v) h

@[simp] theorem get?_empty (k : κ) : (empty : Dict κ ν).get? k = none := rfl

@[simp] theorem get?_set_self (d : Dict κ ν) (k : κ) (v : ν) : (d.set k v).get? k = some v := by
  unfold set get?
  split
  next h =>
    obtain ⟨e, he, rfl⟩ := List.mem_map.mp h
    simp [Table.get?_of_mem he]
  next => simp

theorem get?_set_of_ne (d : Dict κ ν) {k k' : κ} (v : ν) (h : k' ≠ k) :
    (d.set k v).get? k' = d.get? k' := by
  unfold set get?
  split
  next =>
    cases he : d.entries.get? k' with
    | none => simp [he]
    | some e =>
        have hek : e.1 = k' := (Table.get?_eq_some.mp he).2
        simp [he, hek, h]
  next => simp [Ne.symm h]

theorem get?_set (d : Dict κ ν) (k k' : κ) (v : ν) :
    (d.set k v).get? k' = if k' = k then some v else d.get? k' := by
  split
  next h => rw [h, get?_set_self]
  next h => exact get?_set_of_ne d v h

/-- The mapping a list of assignments leaves. -/
def ofList (l : List (κ × ν)) : Dict κ ν := l.foldl (fun d e => d.set e.1 e.2) empty

theorem mem_items {d : Dict κ ν} {k : κ} {v : ν} : (k, v) ∈ d.items ↔ d.get? k = some v := by
  constructor
  · intro h
    simp [get?, Table.get?_of_mem h]
  · intro h
    obtain ⟨e, he, rfl⟩ := Option.map_eq_some_iff.mp h
    obtain ⟨hmem, rfl⟩ := Table.get?_eq_some.mp he
    exact hmem

theorem notMem_keys {d : Dict κ ν} {k : κ} (h : d.get? k = none) : k ∉ d.items.map Prod.fst :=
  Table.key_notMem_of_get?_eq_none (Option.map_eq_none_iff.mp h)

theorem items_set_of_mem {d : Dict κ ν} {k : κ} {v : ν} (h : k ∈ d.items.map Prod.fst) :
    (d.set k v).items = d.items.map fun e => if e.1 = k then (e.1, v) else e := by
  unfold items at *
  rw [set, dif_pos h, Table.update]
  simp only [decide_eq_true_eq]

theorem items_set_of_notMem {d : Dict κ ν} {k : κ} {v : ν} (h : k ∉ d.items.map Prod.fst) :
    (d.set k v).items = d.items ++ [(k, v)] := by
  unfold items at *
  rw [set, dif_neg h, Table.insert]

/-- The entry of a key. -/
theorem find?_items (d : Dict κ ν) (k : κ) :
    d.items.find? (fun e => e.1 = k) = (d.get? k).map fun v => (k, v) := by
  change d.entries.get? k = _
  rw [get?]
  cases h : d.entries.get? k with
  | none => rfl
  | some e =>
      obtain ⟨-, rfl⟩ := Table.get?_eq_some.mp h
      rfl

/-- An assignment to a present key changes one entry, where it stands. -/
theorem exists_items_set {d : Dict κ ν} {k : κ} {old : ν} (h : d.get? k = some old) :
    ∃ l l', d.items = l ++ (k, old) :: l' ∧ ∀ v, (d.set k v).items = l ++ (k, v) :: l' := by
  have hmem : (k, old) ∈ d.entries.rows := mem_items.mpr h
  obtain ⟨l, l', hrows⟩ := List.append_of_mem hmem
  refine ⟨l, l', hrows, fun v => ?_⟩
  have hnodup := d.entries.nodup
  rw [hrows, List.map_append, List.map_cons, List.nodup_middle, List.nodup_cons] at hnodup
  have hother : ∀ e ∈ l ++ l', (if e.1 = k then (e.1, v) else e) = e := by
    intro e he
    have hne : e.1 ≠ k := by
      rintro rfl
      rw [← List.map_append] at hnodup
      exact hnodup.1 (List.mem_map.mpr ⟨e, he, rfl⟩)
    simp [hne]
  have hpresent : k ∈ d.entries.rows.map Prod.fst := List.mem_map_of_mem hmem
  rw [items_set_of_mem hpresent, items, hrows, List.map_append, List.map_cons,
    List.map_congr_left fun e he => hother e (List.mem_append_left _ he),
    List.map_congr_left fun e he => hother e (List.mem_append_right _ he)]
  simp

/-- There is one entry less to meet `p` once an entry no longer does. -/
theorem countP_items_set {d : Dict κ ν} {k : κ} {old v : ν} {p : κ × ν → Bool}
    (h : d.get? k = some old) (hold : p (k, old) = true) (hnew : p (k, v) = false) :
    d.items.countP p = (d.set k v).items.countP p + 1 := by
  obtain ⟨l, l', hitems, hset⟩ := exists_items_set h
  rw [hitems, hset]
  simp [List.countP_append, hold, hnew]
  omega

omit [DecidableEq κ] in
theorem ext {d d' : Dict κ ν} (h : d.items = d'.items) : d = d' := by
  obtain ⟨⟨rows, nodup⟩⟩ := d
  obtain ⟨⟨rows', nodup'⟩⟩ := d'
  obtain rfl : rows = rows' := h
  rfl

omit [DecidableEq κ] in
/-- Every value that meets `p` with its key is replaced. -/
def updateIf (d : Dict κ ν) (p : κ × ν → Bool) (f : ν → ν) : Dict κ ν :=
  ⟨d.entries.update p fun e => (e.1, f e.2)⟩

theorem get?_updateIf (d : Dict κ ν) (p : κ × ν → Bool) (f : ν → ν) (k : κ) :
    (d.updateIf p f).get? k = (d.get? k).map fun v => if p (k, v) then f v else v := by
  simp only [get?, updateIf, Table.get?_update, Option.map_map]
  cases h : d.entries.get? k with
  | none => rfl
  | some e =>
      obtain ⟨-, rfl⟩ := Table.get?_eq_some.mp h
      simp only [Option.map_some, Function.comp_apply]
      split <;> rfl

/-- An update by a key is an assignment. -/
theorem updateIf_eq_set {d : Dict κ ν} {p : κ × ν → Bool} {k : κ} {v : ν} (f : ν → ν)
    (h : d.get? k = some v) (hp : ∀ e ∈ d.items, p e = true ↔ e.1 = k) :
    d.updateIf p f = d.set k (f v) := by
  have hmem : (k, v) ∈ d.items := mem_items.mpr h
  apply ext
  rw [items_set_of_mem (List.mem_map.mpr ⟨_, hmem, rfl⟩)]
  refine List.map_congr_left fun e he => ?_
  by_cases hk : e.1 = k
  · have hv : e = (k, v) := d.entries.eq_of_key he hmem hk
    simp [hv, (hp _ hmem).mpr rfl]
  · simp [hk, mt (hp e he).mp hk]

omit [DecidableEq κ] in
theorem updateIf_eq_self {d : Dict κ ν} {p : κ × ν → Bool} (f : ν → ν)
    (hp : ∀ e ∈ d.items, p e = false) : d.updateIf p f = d := by
  apply ext
  refine (List.map_congr_left fun e he => ?_).trans (List.map_id _)
  simp [hp e he]

/-- A condition on the key that only one entry meets. -/
theorem filter_items_eq_singleton {d : Dict κ ν} {p : κ × ν → Bool} {k : κ} {v : ν}
    (h : d.get? k = some v) (hp : ∀ e ∈ d.items, p e = true ↔ e.1 = k) :
    d.items.filter p = [(k, v)] := by
  obtain ⟨l, l', hitems⟩ := List.append_of_mem (mem_items.mpr h)
  have hnodup := d.entries.nodup
  change (d.items.map Prod.fst).Nodup at hnodup
  rw [hitems, List.map_append, List.map_cons, List.nodup_middle, List.nodup_cons,
    ← List.map_append] at hnodup
  have hother : ∀ e ∈ l ++ l', ¬p e = true := by
    intro e he hpe
    have hmem : e ∈ d.items := by
      rw [hitems]
      exact List.mem_append.mpr ((List.mem_append.mp he).imp_right (List.mem_cons_of_mem _))
    exact hnodup.1 (List.mem_map.mpr ⟨e, he, (hp e hmem).mp hpe⟩)
  have hself : p (k, v) = true := (hp _ (mem_items.mpr h)).mpr rfl
  rw [hitems, List.filter_append, List.filter_cons_of_pos hself,
    List.filter_eq_nil_iff.mpr fun e he => hother e (List.mem_append_left _ he),
    List.filter_eq_nil_iff.mpr fun e he => hother e (List.mem_append_right _ he)]
  rfl

/-! ### The values under a mapping -/

section Map
variable {ν' : Type u} (f : ν → ν')

omit [DecidableEq κ] in
def map (d : Dict κ ν) : Dict κ ν' where
  entries :=
    { rows := d.entries.rows.map fun e => (e.1, f e.2)
      nodup := by simpa only [List.map_map, Function.comp_def] using d.entries.nodup }

omit [DecidableEq κ] in
theorem items_map (d : Dict κ ν) : (d.map f).items = d.items.map fun e => (e.1, f e.2) := rfl

omit [DecidableEq κ] in
@[simp] theorem map_empty : (empty : Dict κ ν).map f = empty := rfl

theorem get?_map (d : Dict κ ν) (k : κ) : (d.map f).get? k = (d.get? k).map f := by
  simp only [get?, Table.get?, map, List.find?_map, Function.comp_def, Option.map_map]

theorem map_set (d : Dict κ ν) (k : κ) (v : ν) : (d.set k v).map f = (d.map f).set k (f v) := by
  have hkeys : (d.map f).items.map Prod.fst = d.items.map Prod.fst := by
    simp only [items_map, List.map_map, Function.comp_def]
  apply ext
  rw [items_map]
  by_cases hk : k ∈ d.items.map Prod.fst
  · have hk' : k ∈ (d.map f).items.map Prod.fst := hkeys ▸ hk
    rw [items_set_of_mem hk, items_set_of_mem hk', items_map, List.map_map, List.map_map]
    refine List.map_congr_left fun e _ => ?_
    by_cases he : e.1 = k <;> simp [he]
  · have hk' : k ∉ (d.map f).items.map Prod.fst := hkeys ▸ hk
    rw [items_set_of_notMem hk, items_set_of_notMem hk', items_map, List.map_append]
    simp

theorem map_foldl_set (l : List (κ × ν)) (d : Dict κ ν) :
    (l.foldl (fun d e => d.set e.1 e.2) d).map f =
      (l.map fun e => (e.1, f e.2)).foldl (fun d e => d.set e.1 e.2) (d.map f) := by
  induction l generalizing d with
  | nil => rfl
  | cons e l ih => rw [List.foldl_cons, ih, map_set, List.map_cons, List.foldl_cons]

omit [DecidableEq κ] in
theorem map_updateIf {d : Dict κ ν} {p : κ × ν → Bool} {p' : κ × ν' → Bool} {g : ν → ν}
    {g' : ν' → ν'} (hp : ∀ e ∈ d.items, p' (e.1, f e.2) = p e) (hg : ∀ v, f (g v) = g' (f v)) :
    (d.updateIf p g).map f = (d.map f).updateIf p' g' := by
  apply ext
  simp only [items, updateIf, Table.update, map, List.map_map]
  refine List.map_congr_left fun e he => ?_
  simp only [Function.comp_apply, hp e he]
  split
  · rw [hg]
  · rfl

end Map

omit [DecidableEq κ] in
theorem nodup_items (d : Dict κ ν) : (d.items.map Prod.fst).Nodup := d.entries.nodup

theorem items_foldl_set {l : List (κ × ν)} {d : Dict κ ν}
    (h : ((d.items ++ l).map Prod.fst).Nodup) :
    (l.foldl (fun d e => d.set e.1 e.2) d).items = d.items ++ l := by
  induction l generalizing d with
  | nil => simp
  | cons e l ih =>
      have hfresh : e.1 ∉ d.entries.rows.map Prod.fst := by
        intro hmem
        rw [List.map_append, List.nodup_append] at h
        exact h.2.2 e.1 hmem e.1 (by simp) rfl
      have hset : (d.set e.1 e.2).items = d.items ++ [e] := items_set_of_notMem hfresh
      rw [List.foldl_cons, ih, hset, List.append_assoc, List.singleton_append]
      rw [hset, List.append_assoc, List.singleton_append]
      exact h

/-- Assignments to different keys are the entries, in order. -/
theorem items_ofList {l : List (κ × ν)} (h : (l.map Prod.fst).Nodup) : (ofList l).items = l :=
  items_foldl_set h

/-- The entries of a mapping, in whatever order, assign it again. -/
theorem get?_ofList_of_perm {d : Dict κ ν} {l : List (κ × ν)} (h : l.Perm d.items) (k : κ) :
    (ofList l).get? k = d.get? k := by
  have hitems : (ofList l).items = l :=
    items_ofList ((h.map Prod.fst).nodup_iff.mpr d.nodup_items)
  have hmem : ∀ v, (ofList l).get? k = some v ↔ d.get? k = some v := by
    intro v
    rw [← mem_items, ← mem_items, hitems, h.mem_iff]
  cases hget : d.get? k with
  | none =>
      cases hl : (ofList l).get? k with
      | none => rfl
      | some v => rw [(hmem v).mp hl] at hget; cases hget
  | some v => exact (hmem v).mpr hget

/-- What a mapping holds after a list of assignments is one of them, or was there. -/
theorem mem_of_get?_foldl_set {l : List (κ × ν)} {d : Dict κ ν} {k : κ} {v : ν}
    (h : (l.foldl (fun d e => d.set e.1 e.2) d).get? k = some v) :
    (k, v) ∈ l ∨ d.get? k = some v := by
  induction l generalizing d with
  | nil => exact .inr h
  | cons e l ih =>
      rcases ih h with hmem | hget
      · exact .inl (List.mem_cons_of_mem _ hmem)
      · rw [get?_set] at hget
        split at hget
        next hk =>
          obtain rfl := Option.some.inj hget
          exact .inl (by rw [hk]; exact List.mem_cons_self)
        next => exact .inr hget

theorem isSome_get?_foldl_set {l : List (κ × ν)} {d : Dict κ ν} {k : κ}
    (h : k ∈ l.map Prod.fst ∨ (d.get? k).isSome = true) :
    ((l.foldl (fun d e => d.set e.1 e.2) d).get? k).isSome = true := by
  induction l generalizing d with
  | nil => simpa using h
  | cons e l ih =>
      refine ih ?_
      rw [get?_set, List.map_cons, List.mem_cons] at *
      rcases h with (rfl | h) | h
      · exact .inr (by simp)
      · exact .inl h
      · exact .inr (by split <;> simp [h])

theorem mem_of_get?_ofList {l : List (κ × ν)} {k : κ} {v : ν} (h : (ofList l).get? k = some v) :
    (k, v) ∈ l := by simpa using mem_of_get?_foldl_set h

theorem isSome_get?_ofList {l : List (κ × ν)} {k : κ} {v : ν} (h : (k, v) ∈ l) :
    ((ofList l).get? k).isSome = true :=
  isSome_get?_foldl_set (.inl (List.mem_map.mpr ⟨(k, v), h, rfl⟩))

theorem mem_values {d : Dict κ ν} {v : ν} : v ∈ d.values ↔ ∃ k, d.get? k = some v := by
  constructor
  · intro h
    obtain ⟨e, he, rfl⟩ := List.mem_map.mp h
    exact ⟨e.1, by simp [get?, Table.get?_of_mem he]⟩
  · rintro ⟨k, h⟩
    obtain ⟨e, he, rfl⟩ := Option.map_eq_some_iff.mp h
    exact List.mem_map.mpr ⟨e, (Table.get?_eq_some.mp he).1, rfl⟩

/-- The values repeat no key, where a value tells its key. -/
theorem nodup_map_values {d : Dict κ ν} {f : ν → κ} (h : ∀ k v, d.get? k = some v → f v = k) :
    (d.values.map f).Nodup := by
  have hkeys : d.values.map f = d.entries.rows.map Prod.fst := by
    rw [values, List.map_map]
    refine List.map_congr_left fun e he => h e.1 e.2 ?_
    simp [get?, Table.get?_of_mem he]
  exact hkeys ▸ d.entries.nodup

/-! ### Sums over the entries -/

section Sum
variable {g : κ × ν → ℕ}

omit [DecidableEq κ] in
theorem sum_items_updateIf {d : Dict κ ν} {p : κ × ν → Bool} {f : ν → ν}
    (h : ∀ e ∈ d.items, p e = true → g (e.1, f e.2) = g e) :
    ((d.updateIf p f).items.map g).sum = (d.items.map g).sum := by
  change ((d.items.map fun e => if p e then (e.1, f e.2) else e).map g).sum = _
  rw [List.map_map]
  congr 1
  refine List.map_congr_left fun e he => ?_
  rw [Function.comp_apply]
  split
  next hp => exact h e he hp
  next => rfl

end Sum

/-! ### Updates that may be refused -/

section Checked
variable {κ ν ε : Type} {p : κ × ν → Bool} {f : ν → Except ε ν}

/-- `UPDATE ... SET f WHERE p`; one refused row refuses the statement. -/
def updateChecked (d : Dict κ ν) (p : κ × ν → Bool) (f : ν → Except ε ν) :
    Except ε (Dict κ ν) := do
  (d.items.filter p).forM fun e => (f e.2).map fun _ => ()
  return d.updateIf p fun v => (f v).toOption.getD v

theorem updateChecked_eq_ok {d d' : Dict κ ν} : d.updateChecked p f = .ok d' ↔
    (∀ e ∈ d.items, p e = true → ∃ v, f e.2 = .ok v) ∧
      d' = d.updateIf p fun v => (f v).toOption.getD v := by
  have hcheck : ∀ x : Except ε ν, (x.map fun _ => ()) = .ok () ↔ ∃ v, x = .ok v := by
    intro x
    cases x <;> simp [Except.map]
  rw [updateChecked, Proc.bind_eq_ok]
  constructor
  · rintro ⟨⟨⟩, hall, hreturn⟩
    refine ⟨fun e he hp => ?_, (Except.ok.inj hreturn).symm⟩
    exact (hcheck _).mp (Proc.forM_eq_ok.mp hall e (List.mem_filter.mpr ⟨he, hp⟩))
  · rintro ⟨hall, rfl⟩
    refine ⟨(), Proc.forM_eq_ok.mpr fun e he => ?_, rfl⟩
    obtain ⟨hmem, hp⟩ := List.mem_filter.mp he
    exact (hcheck _).mpr (hall e hmem hp)

/-- What an update does to one row. -/
theorem get?_updateChecked [DecidableEq κ] {d d' : Dict κ ν} (h : d.updateChecked p f = .ok d')
    {k : κ} {v : ν} (hv : d.get? k = some v) :
    ∃ v', d'.get? k = some v' ∧ if p (k, v) then f v = .ok v' else v' = v := by
  obtain ⟨hall, rfl⟩ := updateChecked_eq_ok.mp h
  rw [get?_updateIf, hv, Option.map_some]
  by_cases hp : p (k, v) = true
  · obtain ⟨v', hv'⟩ := hall (k, v) (mem_items.mpr hv) hp
    exact ⟨v', by simp [hp, hv', Except.toOption], by simp [hp, hv']⟩
  · exact ⟨v, by simp [hp], by simp [hp]⟩

theorem get?_updateChecked_eq_none [DecidableEq κ] {d d' : Dict κ ν}
    (h : d.updateChecked p f = .ok d') {k : κ} : d'.get? k = none ↔ d.get? k = none := by
  obtain ⟨-, rfl⟩ := updateChecked_eq_ok.mp h
  rw [get?_updateIf, Option.map_eq_none_iff]

end Checked

end Dict

/-! ## The first row in an order -/

section First
variable {ρ : Type u} {r : ρ → ρ → Prop} [DecidableRel r] {l : List ρ}

theorem mem_of_head?_insertionSort {a : ρ} (h : (l.insertionSort r).head? = some a) : a ∈ l :=
  List.mem_insertionSort r |>.mp (List.mem_of_head? h)

theorem exists_head?_insertionSort {a : ρ} (h : a ∈ l) :
    ∃ b, (l.insertionSort r).head? = some b := by
  rw [← Option.isSome_iff_exists, Option.isSome_iff_ne_none, Ne, List.head?_eq_none_iff]
  intro hnil
  have hmem := (List.mem_insertionSort r).mpr h
  rw [hnil] at hmem
  cases hmem

/-- The first row comes before every row, itself included. -/
theorem head?_insertionSort_le [Std.Total r] [IsTrans ρ r] {a b : ρ}
    (h : (l.insertionSort r).head? = some b) (ha : a ∈ l) : r b a := by
  have hsorted := List.pairwise_insertionSort r l
  have hmem := (List.mem_insertionSort r).mpr ha
  cases hsort : l.insertionSort r with
  | nil =>
      rw [hsort] at hmem
      cases hmem
  | cons c rest =>
      rw [hsort] at h hsorted hmem
      obtain rfl := Option.some.inj h
      rcases List.mem_cons.mp hmem with rfl | hrest
      · exact (Std.Total.total a a).elim id id
      · exact List.rel_of_pairwise_cons hsorted hrest

end First

end Lib
