/-!
Dictionaries in the order of their keys. A dictionary is a list of entries with
strictly increasing keys, so equal dictionaries hold equal lists and walking
through one meets its keys in order. Main statements: what `get?` finds after
`insert`, and that `get?` determines the dictionary.
-/

namespace ChipPower

/-- A dictionary, as its entries in the order of their keys. -/
structure Dict (κ α : Type) [Ord κ] where
  toList : List (κ × α)
  sorted : toList.Pairwise fun a b => compare a.1 b.1 = .lt

namespace Dict

/-! ## Lists of entries -/

/-- The value at a key among entries. -/
def find {κ α : Type} [Ord κ] (k : κ) : List (κ × α) → Option α
  | [] => none
  | (k', v) :: rest => if compare k k' = .eq then some v else find k rest

/-- Entries with a value set at a key, which keeps their order. -/
def put {κ α : Type} [Ord κ] (k : κ) (v : α) : List (κ × α) → List (κ × α)
  | [] => [(k, v)]
  | (k', v') :: rest =>
    match compare k k' with
    | .lt => (k, v) :: (k', v') :: rest
    | .eq => (k, v) :: rest
    | .gt => (k', v') :: put k v rest

section Entries

variable {κ α : Type} [Ord κ]

theorem mem_put_key {k x : κ} {v y : α} {entries : List (κ × α)}
    (h : (x, y) ∈ put k v entries) : (x = k ∧ y = v) ∨ (x, y) ∈ entries := by
  induction entries with
  | nil => simpa [put] using h
  | cons entry rest ih =>
    obtain ⟨k', v'⟩ := entry
    simp only [put] at h
    split at h
    · simpa using h
    · simp only [List.mem_cons, Prod.mk.injEq] at h ⊢
      rcases h with h | h
      · exact .inl h
      · exact .inr (.inr h)
    · simp only [List.mem_cons, Prod.mk.injEq] at h ⊢
      rcases h with h | h
      · exact .inr (.inl h)
      · rcases ih h with h | h
        · exact .inl h
        · exact .inr (.inr h)

theorem pairwise_put [Std.TransOrd κ] {k : κ} {v : α} {entries : List (κ × α)}
    (h : entries.Pairwise fun a b => compare a.1 b.1 = .lt) :
    (put k v entries).Pairwise fun a b => compare a.1 b.1 = .lt := by
  induction entries with
  | nil => simp [put]
  | cons entry rest ih =>
    obtain ⟨k', v'⟩ := entry
    obtain ⟨hk, hrest⟩ := List.pairwise_cons.1 h
    simp only [put]
    split
    · rename_i hlt
      refine List.pairwise_cons.2 ⟨fun b hb => ?_, h⟩
      rcases List.mem_cons.1 hb with rfl | hb
      · exact hlt
      · exact Std.TransCmp.lt_trans hlt (hk b hb)
    · rename_i heq
      exact List.pairwise_cons.2
        ⟨fun b hb => Std.TransCmp.lt_of_eq_of_lt heq (hk b hb), hrest⟩
    · rename_i hgt
      refine List.pairwise_cons.2 ⟨fun b hb => ?_, ih hrest⟩
      rcases mem_put_key hb with ⟨hb, -⟩ | hb
      · exact hb ▸ Std.OrientedCmp.lt_of_gt hgt
      · exact hk b hb

end Entries

/-! ## Operations -/

section Operations

variable {κ α : Type} [Ord κ]

/-- The dictionary without entries. -/
def empty : Dict κ α := ⟨[], .nil⟩

instance : EmptyCollection (Dict κ α) := ⟨empty⟩

instance : Inhabited (Dict κ α) := ⟨empty⟩

instance [DecidableEq κ] [DecidableEq α] : DecidableEq (Dict κ α) := fun a b =>
  if h : a.toList = b.toList then
    isTrue (by cases a; cases b; cases h; rfl)
  else isFalse fun hab => h (hab ▸ rfl)

/-- The value at a key. -/
def get? (d : Dict κ α) (k : κ) : Option α :=
  find k d.toList

/-- Whether there is a value at a key. -/
def contains (d : Dict κ α) (k : κ) : Bool :=
  (d.get? k).isSome

/-- Whether there are no entries. -/
def isEmpty (d : Dict κ α) : Bool :=
  d.toList.isEmpty

/-- The number of entries. -/
def size (d : Dict κ α) : Nat :=
  d.toList.length

/-- The keys, in order. -/
def keys (d : Dict κ α) : List κ :=
  d.toList.map (·.1)

/-- The values, in the order of their keys. -/
def values (d : Dict κ α) : List α :=
  d.toList.map (·.2)

variable [Std.TransOrd κ]

/-- Sets the value at a key. -/
def insert (d : Dict κ α) (k : κ) (v : α) : Dict κ α :=
  ⟨put k v d.toList, pairwise_put d.sorted⟩

/-- Sets the values of a list, in its order. -/
def insertAll (d : Dict κ α) (entries : List (κ × α)) : Dict κ α :=
  entries.foldl (fun d (k, v) => d.insert k v) d

/-- The dictionary of a list. The last value of a key counts. -/
def ofList (entries : List (κ × α)) : Dict κ α :=
  empty.insertAll entries

end Operations

/-! ## What a look-up finds -/

section Lookup

variable {κ α : Type} [Ord κ]

theorem find_self [Std.LawfulEqOrd κ] (k : κ) (v : α) (rest : List (κ × α)) :
    find k ((k, v) :: rest) = some v := by
  simp [find]

theorem find_put_self [Std.LawfulEqOrd κ] (k : κ) (v : α) (entries : List (κ × α)) :
    find k (put k v entries) = some v := by
  induction entries with
  | nil => simp [put, find]
  | cons entry rest ih =>
    obtain ⟨k', v'⟩ := entry
    simp only [put]
    split
    · simp [find]
    · simp [find]
    · rename_i hgt
      simp [find, hgt, ih]

theorem find_put_of_ne [Std.LawfulEqOrd κ] {k x : κ} (h : x ≠ k) (v : α)
    (entries : List (κ × α)) : find x (put k v entries) = find x entries := by
  have hne : compare x k ≠ .eq := fun he => h (Std.LawfulEqOrd.eq_of_compare he)
  induction entries with
  | nil => simp [put, find, hne]
  | cons entry rest ih =>
    obtain ⟨k', v'⟩ := entry
    simp only [put]
    split
    · simp [find, hne]
    · rename_i heq
      obtain rfl := Std.LawfulEqOrd.eq_of_compare heq
      simp [find, hne]
    · simp [find, ih]

theorem find_eq_none_of_lt {x : κ} {entries : List (κ × α)}
    (h : ∀ entry ∈ entries, compare x entry.1 = .lt) : find x entries = none := by
  induction entries with
  | nil => rfl
  | cons entry rest ih =>
    have hx := h entry (by simp)
    simp [find, hx, ih fun e he => h e (by simp [he])]

theorem find_append (k : κ) (front back : List (κ × α)) :
    find k (front ++ back) = (find k front).or (find k back) := by
  induction front with
  | nil => rfl
  | cons entry rest ih =>
    obtain ⟨k', v⟩ := entry
    by_cases h : compare k k' = .eq
    · simp [find, h]
    · simp [find, h, ih]

theorem find_eq_none_of_not_mem [Std.LawfulEqOrd κ] {k : κ} {entries : List (κ × α)}
    (absent : k ∉ entries.map (·.1)) : find k entries = none := by
  induction entries with
  | nil => rfl
  | cons entry rest ih =>
    rw [List.map_cons, List.mem_cons, not_or] at absent
    have other : compare k entry.1 ≠ .eq := fun same =>
      absent.1 (Std.LawfulEqOrd.eq_of_compare same)
    simp [find, other, ih absent.2]

theorem find_eq_some_of_mem [Std.LawfulEqOrd κ] {k : κ} {v : α} {entries : List (κ × α)}
    (distinct : (entries.map (·.1)).Nodup) (member : (k, v) ∈ entries) :
    find k entries = some v := by
  induction entries with
  | nil => cases member
  | cons entry rest ih =>
    rw [List.map_cons, List.nodup_cons] at distinct
    rcases List.mem_cons.1 member with rfl | member
    · exact find_self k v rest
    · have other : compare k entry.1 ≠ .eq := fun same =>
        distinct.1 (Std.LawfulEqOrd.eq_of_compare same ▸ List.mem_map.2 ⟨(k, v), member, rfl⟩)
      simp [find, other, ih distinct.2 member]

theorem mem_values_of_find {k : κ} {v : α} {entries : List (κ × α)}
    (found : find k entries = some v) : v ∈ entries.map (·.2) := by
  induction entries with
  | nil => cases found
  | cons entry rest ih =>
    rw [find] at found
    split at found
    · cases found
      exact List.mem_cons_self
    · exact List.mem_cons_of_mem _ (ih found)

/-- A function's values are found at all of the keys that were listed. -/
theorem find_map [Std.LawfulEqOrd κ] {k : κ} {keys : List κ} (h : k ∈ keys) (f : κ → α) :
    find k (keys.map fun key => (key, f key)) = some (f k) := by
  induction keys with
  | nil => cases h
  | cons key rest ih =>
    by_cases hk : compare k key = .eq
    · obtain rfl := Std.LawfulEqOrd.eq_of_compare hk
      simp [find]
    · have hne : k ≠ key := fun same => hk (same ▸ Std.ReflCmp.compare_self)
      simpa [find, hk] using ih ((List.mem_cons.1 h).resolve_left hne)

theorem find_reverse [Std.LawfulEqOrd κ] {entries : List (κ × α)}
    (h : entries.Pairwise fun a b => compare a.1 b.1 = .lt) (k : κ) :
    find k entries.reverse = find k entries := by
  induction entries with
  | nil => rfl
  | cons entry rest ih =>
    obtain ⟨k', v⟩ := entry
    obtain ⟨hk, hrest⟩ := List.pairwise_cons.1 h
    rw [List.reverse_cons, find_append, ih hrest]
    by_cases hkk : compare k k' = .eq
    · obtain rfl := Std.LawfulEqOrd.eq_of_compare hkk
      rw [find_eq_none_of_lt hk]
      simp [find]
    · simp [find, hkk]

@[simp] theorem get?_empty (k : κ) : (∅ : Dict κ α).get? k = none := rfl

theorem eq_empty_of_isEmpty {d : Dict κ α} (h : d.isEmpty = true) : d = ∅ := by
  obtain ⟨entries, sorted⟩ := d
  obtain rfl := List.isEmpty_iff.1 h
  rfl

variable [Std.TransOrd κ] [Std.LawfulEqOrd κ]

@[simp] theorem get?_insert_self (d : Dict κ α) (k : κ) (v : α) :
    (d.insert k v).get? k = some v :=
  find_put_self k v d.toList

theorem get?_insert_of_ne (d : Dict κ α) {k x : κ} (h : x ≠ k) (v : α) :
    (d.insert k v).get? x = d.get? x :=
  find_put_of_ne h v d.toList

theorem get?_insert [DecidableEq κ] (d : Dict κ α) (k x : κ) (v : α) :
    (d.insert k v).get? x = if x = k then some v else d.get? x := by
  by_cases h : x = k
  · simp [h]
  · simp [h, get?_insert_of_ne d h]

/-- Setting a list of entries leaves the last value of each key among them, and what
was there under all other keys. -/
theorem get?_insertAll (d : Dict κ α) (entries : List (κ × α)) (k : κ) :
    (d.insertAll entries).get? k = (find k entries.reverse).or (d.get? k) := by
  induction entries generalizing d with
  | nil => rfl
  | cons entry rest ih =>
    obtain ⟨k', v⟩ := entry
    have head : (d.insert k' v).get? k = (find k [(k', v)]).or (d.get? k) := by
      by_cases h : compare k k' = .eq
      · obtain rfl := Std.LawfulEqOrd.eq_of_compare h
        simp [find]
      · have ne : k ≠ k' := fun same => h (same ▸ Std.ReflCmp.compare_self)
        simp [find, h, get?_insert_of_ne d ne]
    rw [List.reverse_cons, find_append, Option.or_assoc, ← head]
    exact ih (d.insert k' v)

/-- Among entries with distinct keys each value is found at its key. -/
theorem get?_insertAll_of_mem (d : Dict κ α) {entries : List (κ × α)} {k : κ} {v : α}
    (distinct : (entries.map (·.1)).Nodup) (member : (k, v) ∈ entries) :
    (d.insertAll entries).get? k = some v := by
  have backwards : (entries.reverse.map (·.1)).Nodup := by
    rw [List.map_reverse, List.Nodup, List.pairwise_reverse]
    exact distinct.imp Ne.symm
  rw [get?_insertAll, find_eq_some_of_mem backwards (List.mem_reverse.2 member)]
  rfl

theorem get?_insertAll_of_not_mem (d : Dict κ α) {entries : List (κ × α)} {k : κ}
    (absent : k ∉ entries.map (·.1)) : (d.insertAll entries).get? k = d.get? k := by
  rw [get?_insertAll, find_eq_none_of_not_mem (by simpa using absent)]
  rfl

omit [Std.LawfulEqOrd κ] in
theorem insertAll_append (d : Dict κ α) (first second : List (κ × α)) :
    d.insertAll (first ++ second) = (d.insertAll first).insertAll second :=
  List.foldl_append

theorem get?_ofList (entries : List (κ × α)) (k : κ) :
    (ofList entries).get? k = find k entries.reverse :=
  (get?_insertAll empty entries k).trans Option.or_none

/-- Entries with increasing keys are determined by what a look-up finds. -/
theorem eq_of_find_eq {xs ys : List (κ × α)}
    (hx : xs.Pairwise fun a b => compare a.1 b.1 = .lt)
    (hy : ys.Pairwise fun a b => compare a.1 b.1 = .lt)
    (h : ∀ k, find k xs = find k ys) : xs = ys := by
  induction xs generalizing ys with
  | nil =>
    cases ys with
    | nil => rfl
    | cons entry rest =>
      have := h entry.1
      simp [find] at this
  | cons entry rest ih =>
    obtain ⟨k, v⟩ := entry
    obtain ⟨hk, hrest⟩ := List.pairwise_cons.1 hx
    cases ys with
    | nil =>
      have := h k
      simp [find] at this
    | cons entry' rest' =>
      obtain ⟨k', v'⟩ := entry'
      obtain ⟨hk', hrest'⟩ := List.pairwise_cons.1 hy
      have hkk : compare k k' = .eq := by
        cases hc : compare k k' with
        | eq => rfl
        | lt =>
          have := h k
          have hn : find k ((k', v') :: rest') = none := find_eq_none_of_lt fun e he => by
            rcases List.mem_cons.1 he with rfl | he
            · exact hc
            · exact Std.TransCmp.lt_trans hc (hk' e he)
          simp [hn, find_self] at this
        | gt =>
          have := h k'
          have hc' : compare k' k = .lt := Std.OrientedCmp.lt_of_gt hc
          have hn : find k' ((k, v) :: rest) = none := find_eq_none_of_lt fun e he => by
            rcases List.mem_cons.1 he with rfl | he
            · exact hc'
            · exact Std.TransCmp.lt_trans hc' (hk e he)
          simp [hn, find_self] at this
      obtain rfl := Std.LawfulEqOrd.eq_of_compare hkk
      have hv := h k
      simp only [find, hkk, if_true, Option.some.injEq] at hv
      obtain rfl := hv
      congr 1
      refine ih hrest hrest' fun x => ?_
      by_cases hxk : compare x k = .eq
      · obtain rfl := Std.LawfulEqOrd.eq_of_compare hxk
        rw [find_eq_none_of_lt hk, find_eq_none_of_lt hk']
      · simpa [find, hxk] using h x

/-- Two dictionaries are equal if every look-up finds the same in both. -/
theorem ext_get? {a b : Dict κ α} (h : ∀ k, a.get? k = b.get? k) : a = b := by
  have hl := eq_of_find_eq a.sorted b.sorted h
  cases a
  cases b
  cases hl
  rfl

/-- Entries in the order of their keys are those of their dictionary. -/
theorem toList_ofList {entries : List (κ × α)}
    (h : entries.Pairwise fun a b => compare a.1 b.1 = .lt) :
    (ofList entries).toList = entries :=
  eq_of_find_eq (ofList entries).sorted h fun k =>
    (get?_ofList entries k).trans (find_reverse h k)

end Lookup

/-! ## The entries in any order -/

section Permutations

variable {κ α : Type} [Ord κ] [Std.LawfulEqOrd κ]

/-- A value set at a new key is one entry more. -/
theorem perm_put {k : κ} {v : α} {entries : List (κ × α)} (fresh : k ∉ entries.map (·.1)) :
    (put k v entries).Perm ((k, v) :: entries) := by
  induction entries with
  | nil => exact .refl _
  | cons entry rest ih =>
    rw [List.map_cons, List.mem_cons, not_or] at fresh
    simp only [put]
    split
    · exact .refl _
    · rename_i same
      exact (fresh.1 (Std.LawfulEqOrd.eq_of_compare same)).elim
    · exact ((ih fresh.2).cons _).trans (.swap _ _ _)

theorem nodup_keys (d : Dict κ α) : d.keys.Nodup := by
  refine List.pairwise_map.2 (d.sorted.imp ?_)
  intro a b below same
  have self : compare a.1 b.1 = .eq := same ▸ Std.ReflCmp.compare_self
  rw [below] at self
  cases self

variable [Std.TransOrd κ]

/-- A dictionary of a list has no other values than the list. -/
theorem mem_of_mem_values_ofList {entries : List (κ × α)} {v : α}
    (member : v ∈ (ofList entries).values) : v ∈ entries.map (·.2) := by
  obtain ⟨⟨k, _⟩, inside, rfl⟩ := List.mem_map.1 member
  have found := find_eq_some_of_mem (nodup_keys (ofList entries)) inside
  have listed := mem_values_of_find ((get?_ofList entries k).symm.trans found)
  rwa [List.map_reverse, List.mem_reverse] at listed

/-- Entries set at new and distinct keys are so many entries more. -/
theorem perm_insertAll {d : Dict κ α} {entries : List (κ × α)}
    (distinct : ((entries ++ d.toList).map (·.1)).Nodup) :
    (d.insertAll entries).toList.Perm (entries ++ d.toList) := by
  induction entries generalizing d with
  | nil => exact .refl _
  | cons entry rest ih =>
    obtain ⟨k, v⟩ := entry
    rw [List.cons_append] at distinct
    have fresh : k ∉ d.toList.map (·.1) := fun member =>
      (List.nodup_cons.1 distinct).1 (List.map_append ▸ List.mem_append_right _ member)
    have moved : (rest ++ (d.insert k v).toList).Perm ((k, v) :: (rest ++ d.toList)) :=
      ((perm_put fresh).append_left rest).trans List.perm_middle
    exact (ih ((moved.map _).nodup_iff.2 distinct)).trans moved

/-- A dictionary of entries with distinct keys has their values. -/
theorem perm_values_ofList {entries : List (κ × α)} (distinct : (entries.map (·.1)).Nodup) :
    (ofList entries).values.Perm (entries.map (·.2)) := by
  have whole : (ofList entries).toList.Perm (entries ++ (empty : Dict κ α).toList) :=
    perm_insertAll (by rwa [empty, List.append_nil])
  rw [empty, List.append_nil] at whole
  exact whole.map _

/-- The entries of a dictionary make it up in any order. -/
theorem ofList_of_perm {d : Dict κ α} {entries : List (κ × α)} (perm : entries.Perm d.toList) :
    ofList entries = d := by
  have keys : (entries.map (·.1)).Perm d.keys := perm.map _
  have distinct : (entries.map (·.1)).Nodup := keys.nodup_iff.2 d.nodup_keys
  apply ext_get?
  intro k
  by_cases member : k ∈ entries.map (·.1)
  · obtain ⟨⟨_, v⟩, listed, rfl⟩ := List.mem_map.1 member
    exact (get?_insertAll_of_mem empty distinct listed).trans
      (find_eq_some_of_mem d.nodup_keys (perm.mem_iff.1 listed)).symm
  · have absent : k ∉ d.keys := fun listed => member (keys.mem_iff.2 listed)
    exact (get?_insertAll_of_not_mem empty member).trans (find_eq_none_of_not_mem absent).symm

end Permutations

end Dict

end ChipPower
