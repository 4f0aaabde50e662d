import Mathlib.Data.List.Nodup

/-!
# Tables with a primary key

A table is a list of rows, in insertion order, no two of which have the same key.
The distinctness is a field, so a table with a duplicated key cannot be built:
`insert` refuses such a row the way a database refuses it. A serial table hands
out its own keys, each above every key in use.
-/

structure Table (Row Key : Type) (key : Row → Key) where
  rows : List Row
  distinct : (rows.map key).Nodup

namespace Table

variable {Row Key : Type} {key : Row → Key}

@[ext] theorem ext_rows (t u : Table Row Key key) (h : t.rows = u.rows) : t = u := by
  cases t
  cases u
  congr

def empty : Table Row Key key := ⟨[], List.nodup_nil⟩

variable [DecidableEq Key]

/-- The row with a given key, if there is one. -/
def get (t : Table Row Key key) (k : Key) : Option Row :=
  t.rows.find? fun r => key r = k

/-- `none` when the key of the new row is taken. -/
def insert (t : Table Row Key key) (r : Row) : Option (Table Row Key key) :=
  if taken : key r ∈ t.rows.map key then none
  else some ⟨t.rows ++ [r], by
    rw [List.map_append, List.map_singleton]
    exact t.distinct.append (List.nodup_singleton _) (by simpa using taken)⟩

private theorem map_key_modify (rows : List Row) (k : Key) (f : Row → Row)
    (keeps : ∀ r, key (f r) = key r) :
    (rows.map fun r => if key r = k then f r else r).map key = rows.map key := by
  rw [List.map_map]
  apply List.map_congr_left
  intro r _
  simp only [Function.comp_apply]
  split
  · exact keeps r
  · rfl

/-- Change the row with a given key, if there is one, and no other. -/
def modify (t : Table Row Key key) (k : Key) (f : Row → Row)
    (keeps : ∀ r, key (f r) = key r := by intro; rfl) : Table Row Key key :=
  ⟨t.rows.map fun r => if key r = k then f r else r, by
    rw [map_key_modify t.rows k f keeps]
    exact t.distinct⟩

/-! ### Lookup -/

theorem get_eq_some (t : Table Row Key key) (k : Key) (r : Row) :
    t.get k = some r ↔ r ∈ t.rows ∧ key r = k := by
  constructor
  · intro found
    exact ⟨List.mem_of_find?_eq_some found, by simpa using List.find?_some found⟩
  · rintro ⟨member, rfl⟩
    cases found : t.get (key r) with
    | none => simpa using List.find?_eq_none.mp found r member
    | some other =>
      have same : key other = key r := by simpa using List.find?_some found
      -- Keys are distinct, so a row with the key is the row that is found.
      have equal := List.inj_on_of_nodup_map t.distinct (List.mem_of_find?_eq_some found) member same
      rw [equal]

theorem get_eq_none (t : Table Row Key key) (k : Key) :
    t.get k = none ↔ ∀ r ∈ t.rows, key r ≠ k := by
  simp [get]

theorem get_of_mem (t : Table Row Key key) {r : Row} (member : r ∈ t.rows) :
    t.get (key r) = some r :=
  (t.get_eq_some _ r).mpr ⟨member, rfl⟩

theorem key_of_get {t : Table Row Key key} {k : Key} {r : Row} (found : t.get k = some r) :
    key r = k :=
  ((t.get_eq_some k r).mp found).2

theorem mem_of_get {t : Table Row Key key} {k : Key} {r : Row} (found : t.get k = some r) :
    r ∈ t.rows :=
  ((t.get_eq_some k r).mp found).1

theorem isSome_get (t : Table Row Key key) (k : Key) :
    (t.get k).isSome = true ↔ k ∈ t.rows.map key := by
  simp [get]

/-! ### Insertion -/

theorem insert_eq_some {t u : Table Row Key key} {r : Row} :
    t.insert r = some u ↔ t.get (key r) = none ∧ u.rows = t.rows ++ [r] := by
  rw [get_eq_none]
  unfold insert
  split
  next taken =>
    obtain ⟨other, member, same⟩ := List.mem_map.mp taken
    simp only [reduceCtorEq, false_iff, not_and]
    exact fun fresh => absurd same (fresh other member)
  next free =>
    rw [Option.some.injEq]
    constructor
    · rintro rfl
      exact ⟨fun other member same => free (List.mem_map.mpr ⟨other, member, same⟩), rfl⟩
    · rintro ⟨_, rows⟩
      exact ext_rows _ _ rows.symm

theorem insert_eq_none {t : Table Row Key key} {r : Row} :
    t.insert r = none ↔ ∃ other, t.get (key r) = some other := by
  cases inserted : t.insert r with
  | none =>
    cases found : t.get (key r) with
    | none =>
      have free : key r ∉ t.rows.map key := by
        simpa using (t.get_eq_none (key r)).mp found
      simp [insert, free] at inserted
    | some other => simp
  | some u => simp [(insert_eq_some.mp inserted).1]

theorem exists_insert {t : Table Row Key key} {r : Row} (fresh : t.get (key r) = none) :
    ∃ u, t.insert r = some u := by
  cases inserted : t.insert r with
  | none =>
    obtain ⟨other, taken⟩ := insert_eq_none.mp inserted
    rw [fresh] at taken
    cases taken
  | some u => exact ⟨u, rfl⟩

theorem get_insert {t u : Table Row Key key} {r : Row} (inserted : t.insert r = some u) (k : Key) :
    u.get k = if key r = k then some r else t.get k := by
  obtain ⟨fresh, rows⟩ := insert_eq_some.mp inserted
  unfold get at fresh ⊢
  rw [rows, List.find?_append]
  by_cases same : key r = k
  · subst same
    simp [fresh]
  · cases t.rows.find? (fun r => decide (key r = k)) <;> simp [same]

theorem get_insert_of_get {t u : Table Row Key key} {r old : Row} {k : Key}
    (inserted : t.insert r = some u) (found : t.get k = some old) : u.get k = some old := by
  rw [get_insert inserted, if_neg]
  · exact found
  · rintro rfl
    rw [(insert_eq_some.mp inserted).1] at found
    cases found

/-! ### Update -/

/-- A change of rows that keeps their keys is looked up row by row. -/
private theorem find?_map_of_keeps (rows : List Row) {g : Row → Row} (keeps : ∀ r, key (g r) = key r)
    (k : Key) :
    (rows.map g).find? (fun r => key r = k) = (rows.find? fun r => key r = k).map g := by
  -- The search stops at the same row.
  have same : (fun r => decide (key r = k)) ∘ g = fun r => decide (key r = k) := by
    funext r
    simp only [Function.comp_apply, keeps]
  rw [List.find?_map, same]

theorem get_modify (t : Table Row Key key) (k j : Key) (f : Row → Row)
    (keeps : ∀ r, key (f r) = key r) :
    (t.modify k f keeps).get j = (t.get j).map fun r => if j = k then f r else r := by
  have kept (r : Row) : key (if key r = k then f r else r) = key r := by
    split
    · exact keeps r
    · rfl
  unfold get modify
  rw [find?_map_of_keeps _ kept]
  cases found : t.rows.find? (fun r => decide (key r = j)) with
  | none => rfl
  | some r =>
    have hr : key r = j := by simpa using List.find?_some found
    simp [hr]

theorem get_modify_other (t : Table Row Key key) {k j : Key} (f : Row → Row)
    (keeps : ∀ r, key (f r) = key r) (other : j ≠ k) :
    (t.modify k f keeps).get j = t.get j := by
  simp [get_modify, other]

theorem rows_modify (t : Table Row Key key) (k : Key) (f : Row → Row)
    (keeps : ∀ r, key (f r) = key r) :
    (t.modify k f keeps).rows = t.rows.map fun r => if key r = k then f r else r := rfl

/-- A change is known by what it makes of the row. -/
theorem modify_congr {t : Table Row Key key} {k : Key} {f g : Row → Row}
    (keeps : ∀ r, key (f r) = key r) (keeps' : ∀ r, key (g r) = key r) {r : Row}
    (found : t.get k = some r) (same : f r = g r) : t.modify k f keeps = t.modify k g keeps' := by
  apply ext_rows
  rw [rows_modify, rows_modify]
  apply List.map_congr_left
  intro other member
  split
  next here =>
    have there := t.get_of_mem member
    rw [here, found] at there
    rw [← Option.some.inj there, same]
  next => rfl

/-- A table is the list of what is found under its keys. -/
theorem filterMap_keys (t : Table Row Key key) : (t.rows.map key).filterMap t.get = t.rows := by
  rw [List.filterMap_map]
  calc t.rows.filterMap (t.get ∘ key)
    _ = t.rows.filterMap some := List.filterMap_congr fun r member => t.get_of_mem member
    _ = t.rows := List.filterMap_some

/-- A change that is known row by row. -/
theorem rows_of_get {t u : Table Row Key key} {f : Row → Row} (keys : u.rows.map key = t.rows.map key)
    (changed : ∀ k, u.get k = (t.get k).map f) : u.rows = t.rows.map f := by
  rw [← u.filterMap_keys, keys, funext changed, ← List.map_filterMap, t.filterMap_keys]

/-- Two changes of one row are one. -/
theorem rows_modify_modify (t : Table Row Key key) (k : Key) (f g : Row → Row)
    (keeps : ∀ r, key (f r) = key r) (keeps' : ∀ r, key (g r) = key r) :
    ((t.modify k f keeps).modify k g keeps').rows =
      t.rows.map fun r => if key r = k then g (f r) else r := by
  rw [rows_modify, rows_modify, List.map_map]
  apply List.map_congr_left
  intro r _
  by_cases here : key r = k <;> simp [here, keeps]

/-! ### Insertion or replacement -/

private theorem key_replaced (r old : Row) : key (if key old = key r then r else old) = key old := by
  split
  next same => exact same.symm
  next => rfl

private theorem map_key_replaced (rows : List Row) (r : Row) :
    (rows.map fun old => if key old = key r then r else old).map key = rows.map key := by
  rw [List.map_map]
  exact List.map_congr_left fun old _ => key_replaced r old

/-- The row takes the place of the one with its key, or is added. -/
def upsert (t : Table Row Key key) (r : Row) : Table Row Key key :=
  match t.insert r with
  | some u => u
  | none => ⟨t.rows.map fun old => if key old = key r then r else old, by
      rw [map_key_replaced]
      exact t.distinct⟩

theorem get_upsert (t : Table Row Key key) (r : Row) (k : Key) :
    (t.upsert r).get k = if key r = k then some r else t.get k := by
  unfold upsert
  split
  next u inserted => exact get_insert inserted k
  next refused =>
    obtain ⟨taken, found⟩ := insert_eq_none.mp refused
    unfold get at found ⊢
    rw [find?_map_of_keeps _ (key_replaced r)]
    by_cases here : key r = k
    · subst here
      simp [found, t.key_of_get found]
    · rw [if_neg here]
      cases there : t.rows.find? (fun r => decide (key r = k)) with
      | none => rfl
      | some old =>
        have hold : key old = k := by simpa using List.find?_some there
        simp [hold, Ne.symm here]

/-- A row that takes the place of another leaves the keys as they are. -/
theorem keys_upsert {t : Table Row Key key} {r old : Row} (found : t.get (key r) = some old) :
    (t.upsert r).rows.map key = t.rows.map key := by
  unfold upsert
  rw [insert_eq_none.mpr ⟨old, found⟩]
  exact map_key_replaced t.rows r

/-! ### One table written into another -/

section Copy

variable {Source : Type} {name : Source → Key} {row : Source → Row}

private theorem get_foldl (named : ∀ a, key (row a) = name a) (k : Key) :
    ∀ (sources : List Source) (t : Table Row Key key), (sources.map name).Nodup →
      (sources.foldl (fun t a => t.upsert (row a)) t).get k =
        ((sources.find? fun a => name a = k).map row).or (t.get k)
  | [], t, _ => rfl
  | a :: sources, t, distinct => by
    rw [List.map_cons, List.nodup_cons] at distinct
    rw [List.foldl_cons, get_foldl named k sources _ distinct.2, get_upsert, named, List.find?_cons]
    by_cases here : name a = k
    · -- The rows that are written later have other keys.
      have later : sources.find? (fun a => decide (name a = k)) = none := by
        refine List.find?_eq_none.mpr fun other member => ?_
        rw [decide_eq_true_eq]
        rintro rfl
        rw [here] at distinct
        exact distinct.1 (List.mem_map_of_mem member)
      simp [here, later]
    · simp [here]

theorem get_copy (named : ∀ a, key (row a) = name a) (source : Table Source Key name)
    (t : Table Row Key key) (k : Key) :
    (source.rows.foldl (fun t a => t.upsert (row a)) t).get k =
      ((source.get k).map row).or (t.get k) :=
  get_foldl named k source.rows t source.distinct

/-- Rows that are all there already are replaced where they stand. -/
theorem keys_copy (named : ∀ a, key (row a) = name a) :
    ∀ (sources : List Source) (t : Table Row Key key),
      (∀ a ∈ sources, name a ∈ t.rows.map key) →
      (sources.foldl (fun t a => t.upsert (row a)) t).rows.map key = t.rows.map key
  | [], _, _ => rfl
  | a :: sources, t, there => by
    obtain ⟨old, member, same⟩ := List.mem_map.mp (there a List.mem_cons_self)
    have found : t.get (key (row a)) = some old := by
      rw [named, ← same]
      exact t.get_of_mem member
    have keys := keys_upsert found
    rw [List.foldl_cons, keys_copy named sources _ ?_, keys]
    rw [keys]
    exact fun other later => there other (List.mem_cons_of_mem _ later)

end Copy

/-! ### Rows that meet a condition -/

/-- Every row of `after` fits, apart from rows that come from one which did not. -/
def Respects (Fits : Row → Prop) (before after : Table Row Key key) : Prop :=
  ∀ row ∈ after.rows, (∀ old, before.get (key row) = some old → Fits old) → Fits row

variable {Fits : Row → Prop}

variable {View : Type} {view : Row → View}

/-- `u` has the rows of `t` in the same places, and `view` shows each of them as before. -/
def Keeps (view : Row → View) (t u : Table Row Key key) : Prop :=
  u.rows.map view = t.rows.map view

omit [DecidableEq Key] in
theorem Keeps.refl (t : Table Row Key key) : t.Keeps view t := rfl

omit [DecidableEq Key] in
theorem Keeps.trans {t u v : Table Row Key key} (first : t.Keeps view u) (second : u.Keeps view v) :
    t.Keeps view v := Eq.trans second first

theorem keeps_modify (t : Table Row Key key) (k : Key) {f : Row → Row}
    (shown : ∀ r, view (f r) = view r) (keeps : ∀ r, key (f r) = key r := by intro; rfl) :
    t.Keeps view (t.modify k f keeps) := by
  show ((t.rows.map _).map view) = _
  rw [List.map_map]
  apply List.map_congr_left
  intro r _
  simp only [Function.comp_apply]
  split
  · exact shown r
  · rfl

omit [DecidableEq Key] in
/-- What can be read off the view is kept. -/
theorem Keeps.map_eq {Part : Type} {t u : Table Row Key key} (kept : t.Keeps view u)
    (part : View → Part) : u.rows.map (part ∘ view) = t.rows.map (part ∘ view) := by
  rw [← List.map_map, ← List.map_map, kept]

omit [DecidableEq Key] in
theorem Keeps.mem {t u : Table Row Key key} (kept : t.Keeps view u) {r : Row} (member : r ∈ u.rows) :
    ∃ old ∈ t.rows, view old = view r := by
  have shown : view r ∈ u.rows.map view := List.mem_map_of_mem member
  rw [kept] at shown
  exact List.mem_map.mp shown

/-! ### Tables that look the same -/

omit [DecidableEq Key] in
private theorem map_of_view {A : Type} {F G : Row → A} :
    ∀ {rows rows' : List Row}, (∀ r ∈ rows, ∀ s ∈ rows', view s = view r → G s = F r) →
      rows'.map view = rows.map view → rows'.map G = rows.map F
  | [], [], _, _ => rfl
  | r :: rows, s :: rows', same, shown => by
    rw [List.map_cons, List.map_cons, List.cons.injEq] at shown
    rw [List.map_cons, List.map_cons, same r List.mem_cons_self s List.mem_cons_self shown.1,
      map_of_view (fun r old s new => same r (List.mem_cons_of_mem _ old) s
        (List.mem_cons_of_mem _ new)) shown.2]

omit [DecidableEq Key] in
/-- What is the same for rows that look the same is the same, row by row. -/
theorem Keeps.map_of_mem {A : Type} {t u : Table Row Key key} (kept : t.Keeps view u) {F G : Row → A}
    (same : ∀ r ∈ t.rows, ∀ s ∈ u.rows, view s = view r → G s = F r) : u.rows.map G = t.rows.map F :=
  map_of_view same kept

private theorem filter_of_view {p : Row → Bool} (same : ∀ r s, view s = view r → p s = p r) :
    ∀ {rows rows' : List Row}, rows'.map view = rows.map view →
      (rows'.filter p).map view = (rows.filter p).map view
  | [], [], _ => rfl
  | r :: rows, s :: rows', shown => by
    rw [List.map_cons, List.map_cons, List.cons.injEq] at shown
    rw [List.filter_cons, List.filter_cons, same r s shown.1]
    split
    · rw [List.map_cons, List.map_cons, shown.1, filter_of_view same shown.2]
    · exact filter_of_view same shown.2

omit [DecidableEq Key] in
/-- A selection that depends on the view alone takes the same rows. -/
theorem Keeps.filter {t u : Table Row Key key} (kept : t.Keeps view u) {p : Row → Bool}
    (same : ∀ r s, view s = view r → p s = p r) :
    (u.rows.filter p).map view = (t.rows.filter p).map view := filter_of_view same kept

theorem Keeps.modify {t u : Table Row Key key} (kept : t.Keeps view u)
    (keyed : ∀ r s, view r = view s → key r = key s) (k : Key) {f g : Row → Row}
    (keeps : ∀ r, key (f r) = key r) (keeps' : ∀ r, key (g r) = key r)
    (same : ∀ r s, view s = view r → view (g s) = view (f r)) :
    (t.modify k f keeps).Keeps view (u.modify k g keeps') := by
  unfold Keeps
  rw [rows_modify, rows_modify, List.map_map, List.map_map]
  refine kept.map_of_mem fun r _ s _ shown => ?_
  simp only [Function.comp_apply, keyed s r shown]
  split
  · exact same r s shown
  · exact shown

/-- Rows that look the same are accepted alike. -/
theorem Keeps.insert {t u : Table Row Key key} (kept : t.Keeps view u)
    (keyed : ∀ r s, view r = view s → key r = key s) {r s : Row} (shown : view s = view r) :
    (t.insert r = none ∧ u.insert s = none) ∨
      ∃ t' u', t.insert r = some t' ∧ u.insert s = some u' ∧ t'.Keeps view u' := by
  have keys : u.rows.map key = t.rows.map key := kept.map_of_mem fun r _ s _ => keyed s r
  have both : key s ∈ u.rows.map key ↔ key r ∈ t.rows.map key := by rw [keys, keyed s r shown]
  unfold Table.insert
  by_cases taken : key r ∈ t.rows.map key
  · exact Or.inl ⟨dif_pos taken, dif_pos (both.mpr taken)⟩
  · refine Or.inr ⟨_, _, dif_neg taken, dif_neg fun other => taken (both.mp other), ?_⟩
    show (u.rows ++ [s]).map view = (t.rows ++ [r]).map view
    rw [List.map_append, List.map_append, kept, List.map_singleton, List.map_singleton, shown]

/-- Every row of `t` is in `u`, at the same place, and `view` shows it as before. -/
def Extends (view : Row → View) (t u : Table Row Key key) : Prop :=
  t.rows.map view <+: u.rows.map view

omit [DecidableEq Key] in
theorem Keeps.toExtends {t u : Table Row Key key} (kept : t.Keeps view u) : t.Extends view u := by
  unfold Extends
  simp only [kept.symm, List.prefix_rfl]

omit [DecidableEq Key] in
theorem Extends.refl (t : Table Row Key key) : t.Extends view t := List.prefix_rfl

omit [DecidableEq Key] in
theorem Extends.trans {t u v : Table Row Key key} (first : t.Extends view u)
    (second : u.Extends view v) : t.Extends view v := List.IsPrefix.trans first second

omit [DecidableEq Key] in
theorem extends_of_rows {t u : Table Row Key key} {more : List Row} (rows : u.rows = t.rows ++ more) :
    t.Extends view u := by
  unfold Extends
  rw [rows, List.map_append]
  exact List.prefix_append _ _

theorem extends_insert {t u : Table Row Key key} {r : Row} (inserted : t.insert r = some u) :
    t.Extends view u := extends_of_rows (insert_eq_some.mp inserted).2

private theorem find?_of_prefix (keyed : ∀ r s, view r = view s → key r = key s) (k : Key) (r : Row) :
    ∀ rows rows' : List Row, rows.map view <+: rows'.map view →
      rows.find? (fun r => key r = k) = some r →
      ∃ new, rows'.find? (fun r => key r = k) = some new ∧ view new = view r
  | [], _, _, found => by simp at found
  | _ :: _, [], shown, _ => by simp at shown
  | a :: rows, b :: rows', shown, found => by
    -- Both lists are searched side by side: their views agree at each place, and so do their
    -- keys.
    rw [List.map_cons, List.map_cons, List.cons_prefix_cons] at shown
    rw [List.find?_cons] at found ⊢
    rw [← keyed a b shown.1]
    cases here : decide (key a = k) with
    | true =>
      rw [here] at found
      cases found
      exact ⟨b, rfl, shown.1.symm⟩
    | false =>
      rw [here] at found
      exact find?_of_prefix keyed k r rows rows' shown.2 found

theorem Extends.get_some {t u : Table Row Key key} (grown : t.Extends view u)
    (keyed : ∀ r s, view r = view s → key r = key s) {k : Key} {r : Row} (found : t.get k = some r) :
    ∃ new, u.get k = some new ∧ view new = view r :=
  find?_of_prefix keyed k r _ _ grown found

theorem Keeps.of_get_some {t u : Table Row Key key} (kept : t.Keeps view u)
    (keyed : ∀ r s, view r = view s → key r = key s) {k : Key} {new : Row} (found : u.get k = some new) :
    ∃ r, t.get k = some r ∧ view r = view new := by
  have back : u.Keeps view t := Eq.symm kept
  exact back.toExtends.get_some keyed found

theorem Keeps.map_get {t u : Table Row Key key} (kept : t.Keeps view u)
    (keyed : ∀ r s, view r = view s → key r = key s) (k : Key) :
    (u.get k).map view = (t.get k).map view := by
  cases found : t.get k with
  | some r =>
    obtain ⟨new, there, shown⟩ := kept.toExtends.get_some keyed found
    simp [there, shown]
  | none =>
    cases there : u.get k with
    | none => rfl
    | some r =>
      obtain ⟨old, here, _⟩ := kept.of_get_some keyed there
      simp [found] at here

end Table

/-! ### Serial keys -/

/-- A table whose key is a number that grows from row to row. -/
structure SerialTable (Row : Type) (id : Row → Nat) extends Table Row Nat id where
  increasing : (rows.map id).Pairwise (· < ·)

namespace SerialTable

variable {Row : Type} {id : Row → Nat}

@[ext] theorem ext_rows (t u : SerialTable Row id) (h : t.rows = u.rows) : t = u := by
  obtain ⟨⟨rows, distinct⟩, increasing⟩ := t
  obtain ⟨⟨rows', distinct'⟩, increasing'⟩ := u
  cases h
  rfl

def empty : SerialTable Row id := ⟨Table.empty, List.Pairwise.nil⟩

/-- One above every key in use. -/
def nextId (t : SerialTable Row id) : Nat := (t.rows.map id).foldr max 0 + 1

private theorem le_foldr_max (ns : List Nat) (n : Nat) (member : n ∈ ns) : n ≤ ns.foldr max 0 := by
  induction ns with
  | nil => simp at member
  | cons m ns ih =>
    rw [List.foldr_cons]
    rcases List.mem_cons.mp member with rfl | rest
    · exact Nat.le_max_left _ _
    · exact Nat.le_trans (ih rest) (Nat.le_max_right _ _)

theorem id_lt_nextId (t : SerialTable Row id) {r : Row} (member : r ∈ t.rows) :
    id r < t.nextId :=
  Nat.lt_succ_of_le (le_foldr_max _ _ (List.mem_map_of_mem member))

theorem get_nextId (t : SerialTable Row id) : t.get t.nextId = none :=
  (t.get_eq_none _).mpr fun _ member => Nat.ne_of_lt (t.id_lt_nextId member)

/-- Add the row built from the next key. -/
def append (t : SerialTable Row id) (row : Nat → Row)
    (keyed : ∀ n, id (row n) = n := by intro; rfl) : SerialTable Row id where
  rows := t.rows ++ [row t.nextId]
  distinct := by
    rw [List.map_append, List.map_singleton, keyed]
    refine t.distinct.append (List.nodup_singleton _) ?_
    rw [List.disjoint_singleton]
    intro taken
    obtain ⟨r, member, same⟩ := List.mem_map.mp taken
    exact Nat.ne_of_lt (t.id_lt_nextId member) same
  increasing := by
    rw [List.map_append, List.map_singleton, keyed, List.pairwise_append]
    refine ⟨t.increasing, List.pairwise_singleton _ _, ?_⟩
    intro n taken m single
    obtain ⟨r, member, rfl⟩ := List.mem_map.mp taken
    rw [List.mem_singleton.mp single]
    exact t.id_lt_nextId member

/-- Change the row with a given key, if there is one, and no other. -/
def modify (t : SerialTable Row id) (k : Nat) (f : Row → Row)
    (keeps : ∀ r, id (f r) = id r := by intro; rfl) : SerialTable Row id where
  toTable := t.toTable.modify k f keeps
  increasing := by
    rw [show (t.toTable.modify k f keeps).rows.map id = t.rows.map id from
      Table.map_key_modify t.rows k f keeps]
    exact t.increasing

theorem insert_append (t : SerialTable Row id) (row : Nat → Row) (keyed : ∀ n, id (row n) = n) :
    t.toTable.insert (row t.nextId) = some (t.append row keyed).toTable :=
  Table.insert_eq_some.mpr ⟨by rw [keyed]; exact t.get_nextId, rfl⟩

theorem get_append (t : SerialTable Row id) (row : Nat → Row) (keyed : ∀ n, id (row n) = n)
    (k : Nat) : (t.append row keyed).get k = if t.nextId = k then some (row k) else t.get k := by
  rw [Table.get_insert (t.insert_append row keyed), keyed]
  split
  next same => rw [same]
  · rfl

/-- Tables that look the same hand out the same key. -/
theorem keeps_append {View : Type} {view : Row → View} {t u : SerialTable Row id}
    (kept : t.Keeps view u.toTable) (keyed : ∀ r s, view r = view s → id r = id s) {row row' : Nat → Row}
    (keyed₁ : ∀ n, id (row n) = n) (keyed₂ : ∀ n, id (row' n) = n)
    (shown : ∀ n, view (row' n) = view (row n)) :
    (t.append row keyed₁).Keeps view (u.append row' keyed₂).toTable := by
  have ids : u.rows.map id = t.rows.map id := kept.map_of_mem fun r _ s _ => keyed s r
  have next : u.nextId = t.nextId := by rw [nextId, nextId, ids]
  show (u.rows ++ [row' u.nextId]).map view = (t.rows ++ [row t.nextId]).map view
  rw [List.map_append, List.map_append, next, kept, List.map_singleton, List.map_singleton, shown]

theorem get_modify (t : SerialTable Row id) (k j : Nat) (f : Row → Row)
    (keeps : ∀ r, id (f r) = id r) :
    (t.modify k f keeps).get j = (t.get j).map fun r => if j = k then f r else r :=
  Table.get_modify t.toTable k j f keeps

end SerialTable
