import EsanGbos.Lib.Proc
import Mathlib.Data.List.Sort

/-!
# Pagination by key

A list is served in pages: a page shows the first rows after a cursor, and when more remain it
returns a cursor that names its last row. A reader starts without a cursor and follows the cursors
until none is returned.

## Main definitions

* `Walk` — what a reader sees who follows the cursors to their end.
* `shown` — a page of the rows that remain, in a list that shows a row by `view`.
* `Serves` — a fetch that answers each cursor it can read with the rows after it.

## Main results

* `Serves.walk_iff` — a walk ends exactly where the cursor of every page can be read and every row
  can be shown, and it then shows the rows in their order.
* `Serves.complete_iff` — the same for a list in any order, which is served sorted.
* `filter_after` — in a list sorted by key, the rows below the key of a row are those after it.
-/
namespace Lib.Paging

variable {α β γ ε : Type}

/-- What follows the cursors from one until none is returned, and what it shows. -/
inductive Walk (fetch : Option γ → Except ε (List β × Option γ)) : Option γ → List β → Prop
  | last {cursor : Option γ} {rows : List β} (h : fetch cursor = .ok (rows, none)) :
      Walk fetch cursor rows
  | next {cursor : Option γ} {rows rest : List β} {after : γ}
      (h : fetch cursor = .ok (rows, some after)) (hrest : Walk fetch (some after) rest) :
      Walk fetch cursor (rows ++ rest)

section
variable {fetch : Option γ → Except ε (List β × Option γ)}

theorem not_walk_of_error {cursor : Option γ} {e : ε} {rows : List β}
    (h : fetch cursor = .error e) : ¬ Walk fetch cursor rows := by
  intro hwalk
  cases hwalk with
  | last hlast =>
    rw [h] at hlast
    cases hlast
  | next hnext hrest =>
    rw [h] at hnext
    cases hnext

theorem walk_of_last {cursor : Option γ} {rows rows' : List β}
    (h : fetch cursor = .ok (rows, none)) : Walk fetch cursor rows' ↔ rows' = rows := by
  constructor
  · intro hwalk
    cases hwalk with
    | last hlast =>
      rw [h] at hlast
      injection hlast with hlast
      exact (congrArg Prod.fst hlast).symm
    | next hnext hrest =>
      rw [h] at hnext
      injection hnext with hnext
      cases congrArg Prod.snd hnext
  · rintro rfl
    exact .last h

theorem walk_of_next {cursor : Option γ} {rows all : List β} {after : γ}
    (h : fetch cursor = .ok (rows, some after)) :
    Walk fetch cursor all ↔ ∃ rest, all = rows ++ rest ∧ Walk fetch (some after) rest := by
  constructor
  · intro hwalk
    cases hwalk with
    | last hlast =>
      rw [h] at hlast
      injection hlast with hlast
      cases congrArg Prod.snd hlast
    | next hnext hrest =>
      rw [h] at hnext
      injection hnext with hnext
      obtain ⟨rfl, hafter⟩ := Prod.mk.inj hnext
      injection hafter with hafter
      exact ⟨_, rfl, hafter ▸ hrest⟩
  · rintro ⟨rest, rfl, hrest⟩
    exact .next h hrest

end

/-! ## Pages -/

variable (cursorOf : α → γ) (view : α → Except ε β) (size : ℕ)

/-- The cursor of a page: that of its last row, when more rows remain. -/
def nextCursor (rows : List α) : Option γ :=
  if size < rows.length then (rows.take size).getLast?.map cursorOf else none

/-- A page of the rows that remain. -/
def shown (rows : List α) : Except ε (List β × Option γ) := do
  let page ← (rows.take size).mapM view
  return (page, nextCursor cursorOf size rows)

/-- A row ends a page, when one row more than each page shows is looked at. -/
def EndsPage (rows : List α) (row : α) : Prop :=
  ∃ k, (k + 1) * size < rows.length ∧ rows[(k + 1) * size - 1]? = some row

variable {cursorOf view size}

/-- Looking at one row more than the page shows is enough. -/
theorem nextCursor_take (rows : List α) :
    nextCursor cursorOf size (rows.take (size + 1)) = nextCursor cursorOf size rows := by
  have htake : (rows.take (size + 1)).take size = rows.take size := by
    rw [List.take_take, Nat.min_eq_left (Nat.le_succ size)]
  have hlength : size < (rows.take (size + 1)).length ↔ size < rows.length := by
    rw [List.length_take]
    omega
  simp only [nextCursor, htake, hlength]

theorem shown_take (rows : List α) :
    shown cursorOf view size (rows.take (size + 1)) = shown cursorOf view size rows := by
  have htake : (rows.take (size + 1)).take size = rows.take size := by
    rw [List.take_take, Nat.min_eq_left (Nat.le_succ size)]
  rw [shown, shown, htake, nextCursor_take]

theorem nextCursor_of_le {rows : List α} (h : rows.length ≤ size) :
    nextCursor cursorOf size rows = none := if_neg (Nat.not_lt.mpr h)

theorem not_endsPage_of_le {rows : List α} {row : α} (h : rows.length ≤ size) :
    ¬ EndsPage size rows row := by
  rintro ⟨k, hk, -⟩
  have hsize : size ≤ (k + 1) * size := Nat.le_mul_of_pos_left size (Nat.succ_pos k)
  omega

/-- A list longer than a page is the page, its last row and the rows after it. -/
theorem exists_split {rows : List α} (hsize : 0 < size) (h : size < rows.length) :
    ∃ front last rest, rows = front ++ last :: rest ∧ front.length + 1 = size ∧ rest ≠ [] := by
  have hlt : size - 1 < rows.length := by omega
  refine ⟨rows.take (size - 1), rows[size - 1], rows.drop size, ?_, ?_, ?_⟩
  · have hdrop : rows.drop (size - 1) = rows[size - 1] :: rows.drop size := by
      rw [List.drop_eq_getElem_cons hlt, Nat.sub_add_cancel hsize]
    rw [← hdrop, List.take_append_drop]
  · rw [List.length_take]
    omega
  · rw [ne_eq, List.drop_eq_nil_iff]
    omega

theorem take_split {front rest : List α} {last : α} (h : front.length + 1 = size) :
    (front ++ last :: rest).take size = front ++ [last] := by
  rw [List.append_cons, List.take_left']
  simpa using h

theorem drop_split {front rest : List α} {last : α} (h : front.length + 1 = size) :
    (front ++ last :: rest).drop size = rest := by
  rw [List.append_cons, List.drop_left']
  simpa using h

theorem nextCursor_split {front rest : List α} {last : α} (h : front.length + 1 = size)
    (hrest : rest ≠ []) :
    nextCursor cursorOf size (front ++ last :: rest) = some (cursorOf last) := by
  have hlength : size < (front ++ last :: rest).length := by
    have hpos := List.length_pos_iff.mpr hrest
    rw [List.length_append, List.length_cons]
    omega
  rw [nextCursor, if_pos hlength, take_split h, List.getLast?_concat, Option.map_some]

/-- The first page ends at its last row, the others are those of the rows after it. -/
theorem endsPage_split {front rest : List α} {last row : α} (h : front.length + 1 = size)
    (hrest : rest ≠ []) : EndsPage size (front ++ last :: rest) row ↔
      row = last ∨ EndsPage size rest row := by
  have hpos := List.length_pos_iff.mpr hrest
  have hlength : (front ++ last :: rest).length = size + rest.length := by
    rw [List.length_append, List.length_cons]
    omega
  have hlast : (front ++ last :: rest)[size - 1]? = some last := by
    have hindex : size - 1 = front.length := by omega
    rw [hindex]
    simp
  have hindex : ∀ k, (front ++ last :: rest)[(k + 2) * size - 1]? = rest[(k + 1) * size - 1]? := by
    intro k
    have hmul : (k + 2) * size = (k + 1) * size + size := Nat.succ_mul (k + 1) size
    have hge : size ≤ (k + 1) * size := Nat.le_mul_of_pos_left size (Nat.succ_pos k)
    have hsub : (k + 2) * size - 1 - size = (k + 1) * size - 1 := by omega
    have hdrop : (front ++ last :: rest)[(k + 2) * size - 1]? =
        ((front ++ last :: rest).drop size)[(k + 2) * size - 1 - size]? := by
      rw [List.getElem?_drop]
      congr 1
      omega
    rw [hdrop, drop_split h, hsub]
  constructor
  · rintro ⟨k, hk, hrow⟩
    cases k with
    | zero =>
      rw [Nat.zero_add, Nat.one_mul, hlast, Option.some.injEq] at hrow
      exact .inl hrow.symm
    | succ k =>
      have hmul : (k + 1 + 1) * size = (k + 1) * size + size := Nat.succ_mul (k + 1) size
      exact .inr ⟨k, by omega, by rw [← hindex, ← hrow]⟩
  · rintro (rfl | ⟨k, hk, hrow⟩)
    · exact ⟨0, by omega, by rwa [Nat.zero_add, Nat.one_mul]⟩
    · have hmul : (k + 1 + 1) * size = (k + 1) * size + size := Nat.succ_mul (k + 1) size
      exact ⟨k + 1, by omega, by rw [hindex, hrow]⟩

theorem mapM_append_eq_ok {f : α → Except ε β} {xs ys : List α} {zs : List β} :
    (xs ++ ys).mapM f = .ok zs ↔
      ∃ us vs, xs.mapM f = .ok us ∧ ys.mapM f = .ok vs ∧ zs = us ++ vs := by
  rw [List.mapM_append]
  constructor
  · intro h
    obtain ⟨us, hus, h⟩ := Proc.bind_eq_ok.mp h
    obtain ⟨vs, hvs, h⟩ := Proc.bind_eq_ok.mp h
    injection h with h
    exact ⟨us, vs, hus, hvs, h.symm⟩
  · rintro ⟨us, vs, hus, hvs, rfl⟩
    rw [hus, hvs]
    rfl

/-- Every row of a list can be shown, or the list cannot. -/
theorem exists_mapM_eq_ok {f : α → Except ε β} {l : List α} :
    (∃ bs, l.mapM f = .ok bs) ↔ ∀ a ∈ l, ∃ b, f a = .ok b := by
  induction l with
  | nil => simp [pure, Except.pure]
  | cons a l ih =>
    rw [List.forall_mem_cons, ← ih, List.mapM_cons]
    constructor
    · rintro ⟨bs, hbs⟩
      obtain ⟨b, hb, hbs⟩ := Proc.bind_eq_ok.mp hbs
      obtain ⟨rest, hrest, -⟩ := Proc.bind_eq_ok.mp hbs
      exact ⟨⟨b, hb⟩, rest, hrest⟩
    · rintro ⟨⟨b, hb⟩, rest, hrest⟩
      exact ⟨b :: rest, by rw [hb, hrest]; rfl⟩

theorem length_eq_of_mapM {f : α → Except ε β} {l : List α} {bs : List β}
    (h : l.mapM f = .ok bs) : bs.length = l.length := by
  induction l generalizing bs with
  | nil =>
    injection h with h
    exact h ▸ rfl
  | cons a l ih =>
    rw [List.mapM_cons] at h
    obtain ⟨b, hb, h⟩ := Proc.bind_eq_ok.mp h
    obtain ⟨rest, hrest, h⟩ := Proc.bind_eq_ok.mp h
    injection h with h
    rw [← h, List.length_cons, List.length_cons, ih hrest]

/-! ## Walks -/

/-- The fetch answers without a cursor with the first page, and the cursor of a row, where it reads
that, with the rows after the row. -/
structure Serves (fetch : Option γ → Except ε (List β × Option γ)) (cursorOf : α → γ)
    (view : α → Except ε β) (size : ℕ) (reads : α → Prop) (rows : List α) : Prop where
  first : fetch none = shown cursorOf view size rows
  later : ∀ front row rest, rows = front ++ row :: rest → reads row →
    fetch (some (cursorOf row)) = shown cursorOf view size rest
  rejects : ∀ row ∈ rows, ¬ reads row → ∃ e, fetch (some (cursorOf row)) = .error e

variable {fetch : Option γ → Except ε (List β × Option γ)} {reads : α → Prop} {rows : List α}

/-- From a page on: induction on the rows that remain. -/
theorem Serves.walk_suffix_iff (h : Serves fetch cursorOf view size reads rows) (hsize : 0 < size) :
    ∀ (rest front : List α) (cursor : Option γ) (all : List β), rows = front ++ rest →
      fetch cursor = shown cursorOf view size rest →
      (Walk fetch cursor all ↔ (∀ row, EndsPage size rest row → reads row) ∧
        rest.mapM view = .ok all) := by
  intro rest
  induction hn : rest.length using Nat.strong_induction_on generalizing rest with
  | _ n ih =>
    intro front cursor all hrows hfetch
    by_cases hlength : rest.length ≤ size
    · have hends : ∀ row, EndsPage size rest row → reads row :=
        fun row hrow => absurd hrow (not_endsPage_of_le hlength)
      rw [shown, nextCursor_of_le hlength, List.take_of_length_le hlength] at hfetch
      cases hshown : rest.mapM view with
      | error e =>
        rw [hshown] at hfetch
        simp [not_walk_of_error hfetch]
      | ok page =>
        rw [hshown] at hfetch
        rw [walk_of_last hfetch, Except.ok.injEq, eq_comm]
        exact ⟨fun heq => ⟨hends, heq⟩, fun h => h.2⟩
    · obtain ⟨init, row, tail, rfl, hinit, htail⟩ := exists_split hsize (Nat.lt_of_not_le hlength)
      have hends := @endsPage_split α size init tail row
      rw [shown, take_split hinit, nextCursor_split hinit htail] at hfetch
      have hsplit : rows = (front ++ init) ++ row :: tail := by rw [hrows, List.append_assoc]
      have htaillt : tail.length < n := by
        rw [← hn, List.length_append, List.length_cons]
        omega
      rw [List.append_cons]
      cases hshown : (init ++ [row]).mapM view with
      | error e =>
        rw [hshown] at hfetch
        have hno := @not_walk_of_error β γ ε fetch cursor e all hfetch
        refine ⟨fun hwalk => absurd hwalk hno, fun hall => ?_⟩
        obtain ⟨us, vs, hus, -⟩ := mapM_append_eq_ok.mp hall.2
        rw [hshown] at hus
        cases hus
      | ok page =>
        rw [hshown] at hfetch
        rw [walk_of_next hfetch]
        have hmapM : ∀ all, ((init ++ [row]) ++ tail).mapM view = .ok all ↔
            ∃ rest, all = page ++ rest ∧ tail.mapM view = .ok rest := by
          intro all
          rw [mapM_append_eq_ok, hshown]
          constructor
          · rintro ⟨us, vs, hus, hvs, rfl⟩
            injection hus with hus
            exact ⟨vs, by rw [hus], hvs⟩
          · rintro ⟨vs, rfl, hvs⟩
            exact ⟨page, vs, rfl, hvs, rfl⟩
        rw [hmapM, ← List.append_cons]
        by_cases hreads : reads row
        · have hiff := fun all => ih tail.length htaillt tail rfl ((front ++ init) ++ [row])
            (some (cursorOf row)) all (by rw [hsplit, List.append_cons])
            (h.later _ row tail hsplit hreads)
          constructor
          · rintro ⟨rest, rfl, hwalk⟩
            obtain ⟨hall, hrest⟩ := (hiff rest).mp hwalk
            refine ⟨fun r hr => ?_, rest, rfl, hrest⟩
            rcases (hends hinit htail).mp hr with rfl | hr
            · exact hreads
            · exact hall r hr
          · rintro ⟨hall, rest, rfl, hrest⟩
            exact ⟨rest, rfl, (hiff rest).mpr
              ⟨fun r hr => hall r ((hends hinit htail).mpr (.inr hr)), hrest⟩⟩
        · obtain ⟨e, he⟩ := h.rejects row (by simp [hsplit]) hreads
          constructor
          · rintro ⟨rest, rfl, hwalk⟩
            exact absurd hwalk (not_walk_of_error he)
          · rintro ⟨hall, -⟩
            exact absurd (hall row ((hends hinit htail).mpr (.inl rfl))) hreads

/-- A walk ends exactly where the cursor of every page is read and every row can be shown; it then
shows the rows in their order. -/
theorem Serves.walk_iff (h : Serves fetch cursorOf view size reads rows) (hsize : 0 < size)
    {all : List β} : Walk fetch none all ↔
      (∀ row, EndsPage size rows row → reads row) ∧ rows.mapM view = .ok all :=
  h.walk_suffix_iff hsize rows [] none all rfl h.first

/-- Following the cursors from none ends, and shows every row once, the rows sorted downwards. -/
def Complete (fetch : Option γ → Except ε (List β × Option γ)) (lt : α → α → Prop)
    (view : α → Except ε β) (rows : List α) : Prop :=
  ∃ all : List α, all.Perm rows ∧ all.Pairwise (fun a b => lt b a) ∧
    ∃ shown, all.mapM view = .ok shown ∧ Walk fetch none shown

/-- Rows sorted strictly have one order. -/
theorem eq_of_perm_of_pairwise {lt : α → α → Prop} [Std.Asymm lt] {l l' : List α}
    (hperm : l.Perm l') (hl : l.Pairwise fun a b => lt b a)
    (hl' : l'.Pairwise fun a b => lt b a) : l = l' :=
  hperm.eq_of_pairwise (fun _ _ _ _ hab hba => absurd hba (Std.Asymm.asymm _ _ hab)) hl hl'

/-- A list served in its order is walked completely exactly where every page's cursor is read and
every row can be shown. -/
theorem Serves.complete_iff {lt : α → α → Prop} [Std.Asymm lt] {sorted : List α}
    (h : Serves fetch cursorOf view size reads sorted) (hsize : 0 < size)
    (hperm : sorted.Perm rows) (hsorted : sorted.Pairwise fun a b => lt b a) :
    Complete fetch lt view rows ↔ (∀ row, EndsPage size sorted row → reads row) ∧
      ∀ row ∈ rows, ∃ b, view row = .ok b := by
  have hshown : (∀ row ∈ rows, ∃ b, view row = .ok b) ↔ ∃ shown, sorted.mapM view = .ok shown := by
    rw [exists_mapM_eq_ok]
    exact forall_congr' fun row => by rw [hperm.mem_iff]
  rw [hshown]
  constructor
  · rintro ⟨all, hall, hpairwise, shown, hview, hwalk⟩
    obtain rfl : all = sorted :=
      eq_of_perm_of_pairwise (hall.trans hperm.symm) hpairwise hsorted
    exact ⟨((h.walk_iff hsize).mp hwalk).1, shown, hview⟩
  · rintro ⟨hends, shown, hview⟩
    exact ⟨sorted, hperm, hsorted, shown, hview, (h.walk_iff hsize).mpr ⟨hends, hview⟩⟩

/-! ## Sorted lists -/

/-- A list whose rows an order tells apart may be filtered before it is sorted. -/
theorem insertionSort_filter {r : α → α → Prop} [DecidableRel r] [Std.Total r] [IsTrans α r]
    {l : List α} (hantisymm : ∀ a ∈ l, ∀ b ∈ l, r a b → r b a → a = b) (p : α → Bool) :
    (l.filter p).insertionSort r = (l.insertionSort r).filter p := by
  have hsorted : ((l.insertionSort r).filter p).Pairwise r :=
    (List.pairwise_insertionSort r l).sublist List.filter_sublist
  have hperm : ((l.filter p).insertionSort r).Perm ((l.insertionSort r).filter p) :=
    (List.perm_insertionSort r _).trans ((List.perm_insertionSort r l).filter p).symm
  refine hperm.eq_of_pairwise (fun a b ha hb hab hba => ?_)
    (List.pairwise_insertionSort r _) hsorted
  have ha := List.mem_of_mem_filter ((List.mem_insertionSort r).mp ha)
  have hb := (List.mem_insertionSort r).mp (List.mem_of_mem_filter hb)
  exact hantisymm a ha b hb hab hba

/-! ## Keys -/

section Keys
variable {lt : α → α → Prop} [DecidableRel lt]

/-- In a list sorted downwards the rows below a row are those after it. -/
theorem filter_after [Std.Asymm lt] {front rest : List α} {row : α}
    (h : (front ++ row :: rest).Pairwise fun a b => lt b a) :
    (front ++ row :: rest).filter (fun r => lt r row) = rest := by
  obtain ⟨-, hrest, hfront⟩ := List.pairwise_append.mp h
  have hbefore : front.filter (fun r => lt r row) = [] := by
    refine List.filter_eq_nil_iff.mpr fun r hr => ?_
    have hlt := hfront r hr row List.mem_cons_self
    simpa using Std.Asymm.asymm _ _ hlt
  have hself : ¬ lt row row := fun hlt => Std.Asymm.asymm _ _ hlt hlt
  have hafter : rest.filter (fun r => lt r row) = rest := by
    refine List.filter_eq_self.mpr fun r hr => ?_
    simpa using (List.pairwise_cons.mp hrest).1 r hr
  rw [List.filter_append, hbefore, List.filter_cons_of_neg (by simpa using hself), hafter,
    List.nil_append]

end Keys

/-! ## Rows by time and name -/

/-- An order of texts, as a database compares them. -/
structure TextOrder where
  le : String → String → Bool
  le_total : ∀ a b, le a b = true ∨ le b a = true
  le_trans : ∀ a b c, le a b = true → le b c = true → le a c = true

/-- `a < b` -/
def TextOrder.lt (order : TextOrder) (a b : String) : Bool := order.le a b && !order.le b a

section
variable {τ : Type} [LinearOrder τ] (order : TextOrder) (time : α → τ) (name : α → String)

/-- `order by time desc, name desc` -/
def newest (a b : α) : Prop :=
  time b < time a ∨ time b = time a ∧ order.le (name b) (name a) = true

instance : DecidableRel (newest order time name) := fun _ _ =>
  inferInstanceAs (Decidable (_ ∨ _))

/-- A row comes after another in this order. -/
def older (a b : α) : Prop :=
  time a < time b ∨ time a = time b ∧ order.lt (name a) (name b) = true

instance : DecidableRel (older order time name) := fun _ _ =>
  inferInstanceAs (Decidable (_ ∨ _))

/-- `order by name desc` -/
def nameDesc (a b : α) : Prop := order.le (name b) (name a) = true

instance : DecidableRel (nameDesc order name) := fun _ _ => inferInstanceAs (Decidable (_ = _))

/-- No two rows have one name: it is a key of the table. -/
def NamesDistinct (rows : List α) : Prop :=
  rows.Pairwise fun a b =>
    ¬ (order.le (name a) (name b) = true ∧ order.le (name b) (name a) = true)

variable {order time name}

theorem TextOrder.lt_asymm {a b : String} (h : order.lt a b = true) : ¬ order.lt b a = true := by
  intro h'
  simp only [TextOrder.lt, Bool.and_eq_true, Bool.not_eq_true'] at h h'
  rw [h'.1] at h
  cases h.2

theorem TextOrder.lt_of_le_of_not_both {a b : String} (h : order.le a b = true)
    (hnot : ¬ (order.le b a = true ∧ order.le a b = true)) : order.lt a b = true := by
  have hge : order.le b a = false := by
    by_contra hge
    exact hnot ⟨by simpa using hge, h⟩
  rw [TextOrder.lt, h, hge]
  rfl

instance : Std.Asymm (older order time name) where
  asymm a b h h' := by
    rcases h with h | ⟨h, hname⟩ <;> rcases h' with h' | ⟨h', hname'⟩
    · exact lt_asymm h h'
    · exact absurd h' (ne_of_gt h)
    · exact absurd h (ne_of_gt h')
    · exact order.lt_asymm hname hname'

instance : Std.Total (newest order time name) where
  total a b := by
    rcases lt_trichotomy (time a) (time b) with h | h | h
    · exact .inr (.inl h)
    · rcases order.le_total (name a) (name b) with hname | hname
      · exact .inr (.inr ⟨h, hname⟩)
      · exact .inl (.inr ⟨h.symm, hname⟩)
    · exact .inl (.inl h)

instance : IsTrans α (newest order time name) where
  trans a b c hab hbc := by
    rcases hab with hab | ⟨hab, hname⟩ <;> rcases hbc with hbc | ⟨hbc, hname'⟩
    · exact .inl (hbc.trans hab)
    · exact .inl (hbc ▸ hab)
    · exact .inl (hab ▸ hbc)
    · exact .inr ⟨hbc.trans hab, order.le_trans _ _ _ hname' hname⟩

instance : Std.Total (nameDesc (α := α) order name) where
  total a b := order.le_total (name b) (name a)

instance : IsTrans α (nameDesc order name) where
  trans _ _ _ hab hbc := order.le_trans _ _ _ hbc hab

theorem NamesDistinct.filter {rows : List α} (h : NamesDistinct order name rows) (p : α → Bool) :
    NamesDistinct order name (rows.filter p) := List.Pairwise.filter p h

theorem NamesDistinct.of_perm {rows rows' : List α} (h : NamesDistinct order name rows)
    (hperm : rows.Perm rows') : NamesDistinct order name rows' :=
  hperm.pairwise h fun hne hle => hne hle.symm

/-- Rows with different names that are sorted are sorted strictly. -/
theorem pairwise_older {rows : List α} (h : NamesDistinct order name rows) :
    (rows.insertionSort (newest order time name)).Pairwise
      fun a b => older order time name b a := by
  have hsorted := List.pairwise_insertionSort (newest order time name) rows
  have hnames := h.of_perm (List.perm_insertionSort (newest order time name) rows).symm
  refine (hsorted.and hnames).imp fun {a b} hab => ?_
  rcases hab.1 with hlt | ⟨heq, hle⟩
  · exact .inl hlt
  · exact .inr ⟨heq, TextOrder.lt_of_le_of_not_both hle hab.2⟩

end

end Lib.Paging
