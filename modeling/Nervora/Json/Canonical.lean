import Mathlib.Data.List.Perm.Basic
import Nervora.Json.RoundTrip

/-! The canonical text that is hashed tells values apart, up to the order of their keys. -/
namespace Nervora

/-- The same value, but for the order in which the keys of its objects stand. -/
inductive Json.Reordered : Json → Json → Prop where
  | same (v : Json) : Reordered v v
  | arr {as bs : List Json} : List.Forall₂ Reordered as bs → Reordered (.arr as) (.arr bs)
  | obj {as cs bs : List (String × Json)} : as.Perm cs → cs.map Prod.fst = bs.map Prod.fst →
      List.Forall₂ Reordered (cs.map Prod.snd) (bs.map Prod.snd) → Reordered (.obj as) (.obj bs)

/-- `json.dumps(payload, sort_keys=True, separators=(",", ":"))`. -/
def canonicalText (py : PyRuntime) (payload : Json) : String := dumps py .compact payload.sortKeys

theorem sortKeysItems_eq_map (items : List Json) :
    Json.sortKeysItems items = items.map Json.sortKeys := by
  induction items with
  | nil => rfl
  | cons v items ih => rw [Json.sortKeysItems, ih, List.map_cons]

/-- A field with its value in canonical form. -/
def sortField (f : String × Json) : String × Json := (f.1, f.2.sortKeys)

theorem sortKeysFields_eq_map (fields : List (String × Json)) :
    Json.sortKeysFields fields = fields.map sortField := by
  induction fields with
  | nil => rfl
  | cons f fields ih => rw [Json.sortKeysFields, ih, List.map_cons, sortField]

theorem keys_sortField (fields : List (String × Json)) :
    (fields.map sortField).map Prod.fst = fields.map Prod.fst := by
  rw [List.map_map]
  rfl

/-! ### Sorting by distinct keys -/

/-- Fields with distinct keys have one sorted order. -/
theorem sortFields_of_perm {as bs : List (String × Json)} (perm : as.Perm bs)
    (nodup : (as.map Prod.fst).Nodup) :
    as.insertionSort (·.1 ≤ ·.1) = bs.insertionSort (·.1 ≤ ·.1) := by
  have sorted (l : List (String × Json)) :
      (l.insertionSort (·.1 ≤ ·.1)).Pairwise fun a b => a.1 ≤ b.1 := by
    have total : Std.Total fun a b : String × Json => a.1 ≤ b.1 := ⟨fun a b => String.le_total a.1 b.1⟩
    have trans : IsTrans (String × Json) fun a b => a.1 ≤ b.1 := ⟨fun _ _ _ => String.le_trans⟩
    exact List.pairwise_insertionSort _ l
  refine List.Perm.eq_of_pairwise ?_ (sorted as) (sorted bs)
    (((List.perm_insertionSort _ as).trans perm).trans (List.perm_insertionSort _ bs).symm)
  intro a b there here below above
  have key : a.1 = b.1 := String.le_antisymm below above
  rw [List.mem_insertionSort] at there here
  exact List.inj_on_of_nodup_map nodup there (perm.mem_iff.mpr here) key

/-! ### Canonical forms -/

private theorem fields_sorted {cs bs : List (String × Json)}
    (each : ∀ f ∈ cs, ∀ w, Json.Reordered f.2 w → f.2.sortKeys = Json.sortKeys w)
    (keys : cs.map Prod.fst = bs.map Prod.fst)
    (values : List.Forall₂ Json.Reordered (cs.map Prod.snd) (bs.map Prod.snd)) :
    cs.map sortField = bs.map sortField := by
  induction cs generalizing bs with
  | nil =>
    rw [List.map_nil, eq_comm, List.map_eq_nil_iff] at keys
    rw [keys]
  | cons f cs ih =>
    cases bs with
    | nil => cases keys
    | cons g bs =>
      rw [List.map_cons, List.map_cons, List.cons.injEq] at keys
      rw [List.map_cons, List.map_cons, List.forall₂_cons] at values
      rw [List.map_cons, List.map_cons, sortField, sortField, keys.1,
        each f List.mem_cons_self g.2 values.1,
        ih (fun h there => each h (List.mem_cons_of_mem _ there)) keys.2 values.2]

private theorem sortKeys_arr (items : List Json) :
    (Json.arr items).sortKeys = .arr (items.map Json.sortKeys) := by
  rw [Json.sortKeys, sortKeysItems_eq_map]

private theorem sortKeys_obj (fields : List (String × Json)) :
    (Json.obj fields).sortKeys = .obj ((fields.map sortField).insertionSort (·.1 ≤ ·.1)) := by
  rw [Json.sortKeys, sortKeysFields_eq_map]

private theorem values_reordered {cs bs : List (String × Json)}
    (each : ∀ f ∈ cs, ∀ w, f.2.sortKeys = Json.sortKeys w → Json.Reordered f.2 w)
    (same : cs.map sortField = bs.map sortField) :
    List.Forall₂ Json.Reordered (cs.map Prod.snd) (bs.map Prod.snd) := by
  induction cs generalizing bs with
  | nil =>
    rw [List.map_nil, eq_comm, List.map_eq_nil_iff] at same
    rw [same]
    exact .nil
  | cons f cs ih =>
    cases bs with
    | nil => cases same
    | cons g bs =>
      rw [List.map_cons, List.map_cons, List.cons.injEq] at same
      exact .cons (each f List.mem_cons_self g.2 (congrArg Prod.snd same.1))
        (ih (fun h there => each h (List.mem_cons_of_mem _ there)) same.2)

/-- Canonical forms of objects that are equal have the same fields, in some order. -/
private theorem reordered_obj {as bs : List (String × Json)}
    (each : ∀ f ∈ as, ∀ w, f.2.sortKeys = Json.sortKeys w → Json.Reordered f.2 w)
    (same : (as.map sortField).insertionSort (·.1 ≤ ·.1) =
      (bs.map sortField).insertionSort (·.1 ≤ ·.1)) : Json.Reordered (.obj as) (.obj bs) := by
  have perm : (as.map sortField).Perm (bs.map sortField) := by
    have sorted := List.perm_insertionSort (fun a b : String × Json => a.1 ≤ b.1) (as.map sortField)
    rw [same] at sorted
    exact sorted.symm.trans (List.perm_insertionSort _ _)
  obtain ⟨cs, fields, order⟩ :=
    (congrFun (congrFun (List.eq_map_comp_perm sortField) (bs.map sortField)) as).mpr perm.symm
  refine .obj order.symm ?_ (values_reordered (fun f there => each f (order.mem_iff.mp there)) fields.symm)
  rw [← keys_sortField, ← fields, keys_sortField]

private theorem sortKeys_scalar {v : Json} (not_arr : ∀ items, v ≠ .arr items)
    (not_obj : ∀ fields, v ≠ .obj fields) : v.sortKeys = v := by
  cases v with
  | arr items => exact absurd rfl (not_arr items)
  | obj fields => exact absurd rfl (not_obj fields)
  | _ => simp only [Json.sortKeys]

private theorem reordered_scalar {a b : Json} (not_arr : ∀ items, a ≠ .arr items)
    (not_obj : ∀ fields, a ≠ .obj fields) (same : a.sortKeys = b.sortKeys) : a.Reordered b := by
  rw [sortKeys_scalar not_arr not_obj] at same
  cases b with
  | arr items => exact absurd (same.trans (sortKeys_arr items)) (not_arr _)
  | obj fields => exact absurd (same.trans (sortKeys_obj fields)) (not_obj _)
  | _ =>
    rw [same, sortKeys_scalar (by simp) (by simp)]
    exact .same _

mutual
private theorem reordered_of_sortKeys : ∀ a b : Json, a.sortKeys = b.sortKeys → a.Reordered b
  | .arr as, .arr bs, same => by
    rw [sortKeys_arr, sortKeys_arr, Json.arr.injEq] at same
    exact .arr (reordered_items as bs same)
  | .obj as, .obj bs, same => by
    rw [sortKeys_obj, sortKeys_obj, Json.obj.injEq] at same
    exact reordered_obj (reordered_fields as) same
  | .arr as, .obj bs, same => by
    rw [sortKeys_arr, sortKeys_obj] at same
    cases same
  | .obj as, .arr bs, same => by
    rw [sortKeys_arr, sortKeys_obj] at same
    cases same
  | .arr as, .null, same | .arr as, .bool _, same | .arr as, .int _, same
  | .arr as, .float _, same | .arr as, .str _, same => by
    rw [sortKeys_arr, sortKeys_scalar (by simp) (by simp)] at same
    cases same
  | .obj as, .null, same | .obj as, .bool _, same | .obj as, .int _, same
  | .obj as, .float _, same | .obj as, .str _, same => by
    rw [sortKeys_obj, sortKeys_scalar (by simp) (by simp)] at same
    cases same
  | .null, _, same | .bool _, _, same | .int _, _, same | .float _, _, same | .str _, _, same =>
    reordered_scalar (by simp) (by simp) same

private theorem reordered_items : ∀ as bs : List Json, as.map Json.sortKeys = bs.map Json.sortKeys →
    List.Forall₂ Json.Reordered as bs
  | [], bs, same => by
    rw [List.map_nil, eq_comm, List.map_eq_nil_iff] at same
    rw [same]
    exact .nil
  | a :: as, [], same => by cases same
  | a :: as, b :: bs, same => by
    rw [List.map_cons, List.map_cons, List.cons.injEq] at same
    exact .cons (reordered_of_sortKeys a b same.1) (reordered_items as bs same.2)

private theorem reordered_fields : ∀ as : List (String × Json), ∀ f ∈ as, ∀ w,
    f.2.sortKeys = Json.sortKeys w → f.2.Reordered w
  | [], _, member, _, _ => by cases member
  | (k, v) :: as, f, member, w, same => by
    rcases List.mem_cons.mp member with here | later
    · rw [here] at same ⊢
      exact reordered_of_sortKeys v w same
    · exact reordered_fields as f later w same
end

variable {py : PyRuntime} {fmt : FloatFormat py}

mutual
private theorem sortKeys_of_reordered : ∀ a : Json, a.WellFormed fmt → ∀ b, a.Reordered b →
    a.sortKeys = b.sortKeys
  | .arr as, formed, b, reordered => by
    cases reordered with
    | same => rfl
    | arr each =>
      rw [Json.WellFormed] at formed
      rw [sortKeys_arr, sortKeys_arr, sortKeys_items as formed _ each]
  | .obj as, formed, b, reordered => by
    cases reordered with
    | same => rfl
    | obj order keys values =>
      rw [Json.WellFormed] at formed
      have each := sortKeys_fields as formed.2
      have fields := fields_sorted (fun f there => each f (order.mem_iff.mpr there)) keys values
      rw [sortKeys_obj, sortKeys_obj, ← fields, sortFields_of_perm (order.map sortField)]
      rw [keys_sortField]
      exact formed.1
  | .null, _, _, reordered | .bool _, _, _, reordered | .int _, _, _, reordered
  | .float _, _, _, reordered | .str _, _, _, reordered => by
    cases reordered
    rfl

private theorem sortKeys_items : ∀ as : List Json, WellFormedItems fmt as → ∀ bs,
    List.Forall₂ Json.Reordered as bs → as.map Json.sortKeys = bs.map Json.sortKeys
  | [], _, _, .nil => rfl
  | a :: as, formed, _, .cons one rest => by
    rw [WellFormedItems] at formed
    rw [List.map_cons, List.map_cons, sortKeys_of_reordered a formed.1 _ one,
      sortKeys_items as formed.2 _ rest]

private theorem sortKeys_fields : ∀ as : List (String × Json), WellFormedFields fmt as →
    ∀ f ∈ as, ∀ w, Json.Reordered f.2 w → f.2.sortKeys = Json.sortKeys w
  | [], _, _, member, _, _ => by cases member
  | (k, v) :: as, formed, f, member, w, reordered => by
    rw [WellFormedFields] at formed
    rcases List.mem_cons.mp member with here | later
    · rw [here] at reordered ⊢
      exact sortKeys_of_reordered v formed.1 w reordered
    · exact sortKeys_fields as formed.2 f later w reordered
end

mutual
/-- Sorting the keys leaves a value that can be written. -/
theorem wellFormed_sortKeys : ∀ v : Json, v.WellFormed fmt → v.sortKeys.WellFormed fmt
  | .arr items, formed => by
    rw [Json.WellFormed] at formed
    rw [sortKeys_arr, Json.WellFormed, wellFormedItems_iff]
    exact wellFormed_sortItems items formed
  | .obj fields, formed => by
    rw [Json.WellFormed] at formed
    rw [sortKeys_obj, Json.WellFormed, wellFormedFields_iff]
    have perm := List.perm_insertionSort (fun a b : String × Json => a.1 ≤ b.1) (fields.map sortField)
    refine ⟨?_, fun f there => wellFormed_sortFields fields formed.2 f (perm.mem_iff.mp there)⟩
    rw [(perm.map Prod.fst).nodup_iff, keys_sortField]
    exact formed.1
  | .null, formed | .bool _, formed | .int _, formed | .float _, formed | .str _, formed => by
    rw [sortKeys_scalar (by simp) (by simp)]
    exact formed

private theorem wellFormed_sortItems : ∀ items : List Json, WellFormedItems fmt items →
    ∀ v ∈ items.map Json.sortKeys, v.WellFormed fmt
  | [], _, _, member => by cases member
  | v :: items, formed, w, member => by
    rw [WellFormedItems] at formed
    rcases List.mem_cons.mp member with here | later
    · rw [here]
      exact wellFormed_sortKeys v formed.1
    · exact wellFormed_sortItems items formed.2 w later

private theorem wellFormed_sortFields : ∀ fields : List (String × Json), WellFormedFields fmt fields →
    ∀ f ∈ fields.map sortField, f.2.WellFormed fmt
  | [], _, _, member => by cases member
  | (k, v) :: fields, formed, f, member => by
    rw [WellFormedFields] at formed
    rcases List.mem_cons.mp member with here | later
    · rw [here]
      exact wellFormed_sortKeys v formed.1
    · exact wellFormed_sortFields fields formed.2 f later
end

theorem sortKeys_eq_iff {a b : Json} (formed : a.WellFormed fmt) :
    a.sortKeys = b.sortKeys ↔ a.Reordered b :=
  ⟨reordered_of_sortKeys a b, sortKeys_of_reordered a formed b⟩

theorem canonicalText_inj {a b : Json} (formed : a.WellFormed fmt) (formed' : b.WellFormed fmt) :
    canonicalText py a = canonicalText py b ↔ a.Reordered b := by
  rw [← sortKeys_eq_iff formed]
  constructor
  · intro same
    have loaded := loads_dumps .compact (wellFormed_sortKeys a formed)
    rw [show dumps py .compact a.sortKeys = dumps py .compact b.sortKeys from same,
      loads_dumps .compact (wellFormed_sortKeys b formed'), Option.some.injEq] at loaded
    exact loaded.symm
  · intro same
    rw [canonicalText, canonicalText, same]

/-- The hash of a payload is that of another exactly if the two are the same up to the order of
their keys, at every depth, or the digests of their two texts collide. -/
theorem sha256Hex_eq_iff (digest : String → String)
    (hashes : ∀ v, py.sha256 v = digest (dumps py .compact v)) {a b : Json}
    (formed : a.WellFormed fmt) (formed' : b.WellFormed fmt) :
    sha256Hex py a = sha256Hex py b ↔ a.Reordered b ∨
      canonicalText py a ≠ canonicalText py b ∧
        digest (canonicalText py a) = digest (canonicalText py b) := by
  have hash (v : Json) : sha256Hex py v = digest (canonicalText py v) := hashes v.sortKeys
  rw [hash, hash, ← canonicalText_inj formed formed']
  by_cases same : canonicalText py a = canonicalText py b
  · simp [same]
  · simp [same]

end Nervora
