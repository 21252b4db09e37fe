/-!
# Dictionaries

A dictionary from strings to values, kept as the list of its pairs in strictly increasing
order of key.  The order is part of the type: two dictionaries that answer alike are equal,
so "the same bindings" and "the same value" are one thing, and listing a dictionary always
gives its keys in code point order.
-/

namespace BracketMark

/-- Pairs with strictly increasing keys. -/
structure Dict (β : Type) where
  entries : List (String × β)
  sorted : entries.Pairwise (fun a b => a.1 < b.1)
  deriving DecidableEq

namespace Dict

variable {β : Type}

/-! ## Operations on ordered pairs -/

/-- The pairs with `key` bound to `value`: in its place, or instead of its old value. -/
def insertPair (key : String) (value : β) : List (String × β) → List (String × β)
  | [] => [(key, value)]
  | (k, v) :: rest =>
    if key < k then (key, value) :: (k, v) :: rest
    else if key = k then (key, value) :: rest
    else (k, v) :: insertPair key value rest

theorem mem_insertPair {key : String} {value : β} {pairs : List (String × β)}
    {p : String × β} (h : p ∈ insertPair key value pairs) :
    p = (key, value) ∨ p ∈ pairs := by
  induction pairs with
  | nil => simpa [insertPair] using h
  | cons q rest ih => grind [insertPair]

theorem pairwise_insertPair (key : String) (value : β) {pairs : List (String × β)}
    (h : pairs.Pairwise (fun a b => a.1 < b.1)) :
    (insertPair key value pairs).Pairwise (fun a b => a.1 < b.1) := by
  induction pairs with
  | nil => simp [insertPair]
  | cons q rest ih =>
    obtain ⟨k, v⟩ := q
    rw [List.pairwise_cons] at h
    simp only [insertPair]
    split
    case isTrue lt =>
      refine List.pairwise_cons.2 ⟨fun p hp => ?_, List.pairwise_cons.2 h⟩
      rcases List.mem_cons.1 hp with rfl | hp
      · exact lt
      · exact String.lt_trans lt (h.1 p hp)
    case isFalse ge =>
      split
      case isTrue eq =>
        subst eq
        exact List.pairwise_cons.2 ⟨h.1, h.2⟩
      case isFalse ne =>
        refine List.pairwise_cons.2 ⟨fun p hp => ?_, ih h.2⟩
        rcases mem_insertPair hp with rfl | hp
        · show k < key
          grind
        · exact h.1 p hp

/-! ## The public operations -/

def empty : Dict β := ⟨[], .nil⟩

instance : Inhabited (Dict β) := ⟨empty⟩

def get? (d : Dict β) (key : String) : Option β :=
  d.entries.lookup key

def contains (d : Dict β) (key : String) : Bool :=
  (d.get? key).isSome

/-- `key` bound to `value`, whatever it was bound to before. -/
def insert (d : Dict β) (key : String) (value : β) : Dict β :=
  ⟨insertPair key value d.entries, pairwise_insertPair key value d.sorted⟩

/-- `key` not bound. -/
def erase (d : Dict β) (key : String) : Dict β :=
  ⟨d.entries.filter (fun p => p.1 != key), d.sorted.sublist List.filter_sublist⟩

/-- `d` overlaid with `e`: where both bind a key, `e` wins. -/
def overlay (d e : Dict β) : Dict β :=
  e.entries.foldl (fun acc p => acc.insert p.1 p.2) d

/-- The bindings of a list of pairs; the last pair of a key wins. -/
def ofList (pairs : List (String × β)) : Dict β :=
  pairs.foldl (fun acc p => acc.insert p.1 p.2) empty

/-- The pairs in increasing order of key. -/
def toList (d : Dict β) : List (String × β) := d.entries

def keys (d : Dict β) : List String := d.entries.map (·.1)

def values (d : Dict β) : List β := d.entries.map (·.2)

def isEmpty (d : Dict β) : Bool := d.entries.isEmpty

/-! ## What each operation answers -/

@[simp] theorem get?_empty (key : String) : (empty : Dict β).get? key = none := rfl

theorem lookup_insertPair (key k : String) (value : β) (pairs : List (String × β)) :
    (insertPair key value pairs).lookup k =
      if k = key then some value else pairs.lookup k := by
  induction pairs with
  | nil => grind [insertPair]
  | cons q rest ih => grind [insertPair]

@[simp] theorem get?_insert (d : Dict β) (key : String) (value : β) (k : String) :
    (d.insert key value).get? k = if k = key then some value else d.get? k :=
  lookup_insertPair key k value d.entries

theorem lookup_filter_ne (key k : String) (pairs : List (String × β)) :
    (pairs.filter (fun p => p.1 != key)).lookup k =
      if k = key then none else pairs.lookup k := by
  induction pairs with
  | nil => simp
  | cons q rest ih => grind

@[simp] theorem get?_erase (d : Dict β) (key k : String) :
    (d.erase key).get? k = if k = key then none else d.get? k :=
  lookup_filter_ne key k d.entries

theorem get?_foldl_insert (pairs : List (String × β)) (d : Dict β) (k : String) :
    (pairs.foldl (fun acc p => acc.insert p.1 p.2) d).get? k =
      (pairs.reverse.lookup k).or (d.get? k) := by
  induction pairs generalizing d with
  | nil => simp
  | cons p rest ih =>
    simp only [List.foldl_cons, ih, get?_insert, List.reverse_cons, List.lookup_append]
    grind

/-! ## A dictionary is what it answers -/

theorem lookup_eq_none_of_lt {k : String} {pairs : List (String × β)}
    (h : ∀ p ∈ pairs, k < p.1) : pairs.lookup k = none := by
  induction pairs with
  | nil => rfl
  | cons p rest ih =>
    have hp : k < p.1 := h p List.mem_cons_self
    have hrest : rest.lookup k = none := ih fun q hq => h q (List.mem_cons_of_mem p hq)
    have hne : k ≠ p.1 := by
      rintro rfl
      exact String.lt_irrefl _ hp
    grind

theorem eq_of_lookup {xs ys : List (String × β)}
    (hx : xs.Pairwise (fun a b => a.1 < b.1)) (hy : ys.Pairwise (fun a b => a.1 < b.1))
    (h : ∀ k, xs.lookup k = ys.lookup k) : xs = ys := by
  induction xs generalizing ys with
  | nil =>
    cases ys with
    | nil => rfl
    | cons q ys =>
      have := h q.1
      grind
  | cons p xs ih =>
    cases ys with
    | nil =>
      have := h p.1
      grind
    | cons q ys =>
      rw [List.pairwise_cons] at hx hy
      have hpx : xs.lookup p.1 = none := lookup_eq_none_of_lt hx.1
      have hqy : ys.lookup q.1 = none := lookup_eq_none_of_lt hy.1
      have hkey : p.1 = q.1 := by
        by_cases hlt : p.1 < q.1
        · have hnone : ys.lookup p.1 = none :=
            lookup_eq_none_of_lt fun r hr => String.lt_trans hlt (hy.1 r hr)
          have := h p.1
          grind
        · by_cases hgt : q.1 < p.1
          · have hnone : xs.lookup q.1 = none :=
              lookup_eq_none_of_lt fun r hr => String.lt_trans hgt (hx.1 r hr)
            have := h q.1
            grind
          · grind
      have hval : p.2 = q.2 := by
        have := h p.1
        grind
      have hrest : xs = ys := by
        refine ih hx.2 hy.2 fun k => ?_
        by_cases hk : k = p.1
        · rw [hk, hpx, hkey, hqy]
        · have := h k
          grind
      rw [hrest, Prod.ext hkey hval]

theorem ext_get? {d e : Dict β} (h : ∀ k, d.get? k = e.get? k) : d = e := by
  obtain ⟨xs, hx⟩ := d
  obtain ⟨ys, hy⟩ := e
  have : xs = ys := eq_of_lookup hx hy h
  subst this
  rfl

theorem lookup_reverse {pairs : List (String × β)}
    (h : pairs.Pairwise (fun a b => a.1 < b.1)) (k : String) :
    pairs.reverse.lookup k = pairs.lookup k := by
  induction pairs with
  | nil => rfl
  | cons p rest ih =>
    rw [List.pairwise_cons] at h
    have hp : rest.lookup p.1 = none := lookup_eq_none_of_lt h.1
    rw [List.reverse_cons, List.lookup_append, ih h.2]
    grind

@[simp] theorem get?_overlay (d e : Dict β) (k : String) :
    (d.overlay e).get? k = (e.get? k).or (d.get? k) := by
  rw [overlay, get?_foldl_insert, lookup_reverse e.sorted]
  rfl

theorem get?_ofList (pairs : List (String × β)) (k : String) :
    (ofList pairs).get? k = pairs.reverse.lookup k := by
  rw [ofList, get?_foldl_insert]
  simp

/-- What a list binds a key to is in the last of its pairs with the key. -/
theorem get?_ofList_eq_some_iff {pairs : List (String × β)} {key : String} {value : β} :
    (ofList pairs).get? key = some value ↔
      ∃ before after, pairs = before ++ (key, value) :: after ∧
        ∀ later ∈ after, later.1 ≠ key := by
  rw [get?_ofList, List.lookup_eq_some_iff]
  constructor
  · rintro ⟨behind, front, hpairs, hbehind⟩
    rw [List.reverse_eq_append_iff, List.reverse_cons, List.append_assoc,
      List.singleton_append] at hpairs
    refine ⟨front.reverse, behind.reverse, hpairs, fun later hlater => ?_⟩
    exact (bne_iff_ne.1 (hbehind later (List.mem_reverse.1 hlater))).symm
  · rintro ⟨before, after, rfl, hafter⟩
    refine ⟨after.reverse, before.reverse, by simp, fun later hlater => ?_⟩
    exact bne_iff_ne.2 (hafter later (List.mem_reverse.1 hlater)).symm

theorem get?_ofList_eq_none_iff {pairs : List (String × β)} {key : String} :
    (ofList pairs).get? key = none ↔ ∀ p ∈ pairs, p.1 ≠ key := by
  rw [get?_ofList, List.lookup_eq_none_iff]
  constructor
  · intro h p hp
    exact (bne_iff_ne.1 (h p (List.mem_reverse.2 hp))).symm
  · intro h p hp
    exact bne_iff_ne.2 (h p (List.mem_reverse.1 hp)).symm

/-- The pairs of a dictionary are what it answers. -/
theorem mem_toList_iff (d : Dict β) (key : String) (value : β) :
    (key, value) ∈ d.toList ↔ d.get? key = some value := by
  obtain ⟨pairs, sorted⟩ := d
  simp only [toList, get?]
  induction pairs with
  | nil => simp
  | cons p rest ih =>
    obtain ⟨k, v⟩ := p
    rw [List.pairwise_cons] at sorted
    by_cases hkey : key = k
    · subst hkey
      have hnone : rest.lookup key = none := lookup_eq_none_of_lt sorted.1
      have hrest := ih sorted.2
      rw [hnone] at hrest
      simp [hrest, eq_comm]
    · simp [hkey, List.lookup_cons, beq_eq_false_iff_ne.2 hkey, ih sorted.2]

theorem isEmpty_iff {d : Dict β} : d.isEmpty = true ↔ d = empty := by
  obtain ⟨entries, sorted⟩ := d
  simp [isEmpty, empty]

theorem isSome_get? (d : Dict β) (key : String) : (d.get? key).isSome = d.keys.contains key := by
  rw [Bool.eq_iff_iff, List.contains_iff_mem, keys, List.mem_map, get?, List.lookup_isSome_iff]
  constructor
  · rintro ⟨p, hmem, hkey⟩
    exact ⟨p, hmem, (beq_iff_eq.1 hkey).symm⟩
  · rintro ⟨p, hmem, rfl⟩
    exact ⟨p, hmem, beq_self_eq_true p.1⟩

/-- A dictionary is the dictionary of its own pairs. -/
@[simp] theorem ofList_toList (d : Dict β) : ofList d.toList = d :=
  ext_get? fun k => by rw [get?_ofList, toList, lookup_reverse d.sorted]; rfl

end Dict
end BracketMark
