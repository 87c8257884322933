/-!
Dictionaries: texts, each with one value, in the order of their code points.  The order is part of
the type, so two dictionaries that answer every look-up alike are equal (`Dict.ext_get?`).
-/

namespace BrowserPods

/-- A dictionary from texts, in strictly ascending order of its keys. -/
structure Dict (β : Type) where
  entries : List (String × β)
  sorted : entries.Pairwise (·.1 < ·.1) := by simp
deriving DecidableEq, Repr

namespace Dict

variable {β γ : Type}

def empty : Dict β := ⟨[], by simp⟩

instance : Inhabited (Dict β) := ⟨empty⟩

/-- Adds an entry to an ascending list of entries, in place of one with the same key. -/
def insertEntry (key : String) (value : β) : List (String × β) → List (String × β)
  | [] => [(key, value)]
  | (k, v) :: rest =>
    if key < k then (key, value) :: (k, v) :: rest
    else if key = k then (key, value) :: rest
    else (k, v) :: insertEntry key value rest

theorem mem_insertEntry {key : String} {value : β} {entry : String × β}
    {entries : List (String × β)} (h : entry ∈ insertEntry key value entries) :
    entry = (key, value) ∨ entry ∈ entries := by
  induction entries with
  | nil => simpa [insertEntry] using h
  | cons head rest ih =>
    obtain ⟨k, v⟩ := head
    grind [insertEntry]

theorem insertEntry_sorted (key : String) (value : β) {entries : List (String × β)}
    (h : entries.Pairwise (·.1 < ·.1)) :
    (insertEntry key value entries).Pairwise (·.1 < ·.1) := by
  induction entries with
  | nil => simp [insertEntry]
  | cons head rest ih =>
    obtain ⟨k, v⟩ := head
    have ⟨hhead, hrest⟩ := List.pairwise_cons.1 h
    unfold insertEntry
    split
    · rename_i hlt
      refine List.pairwise_cons.2 ⟨?_, h⟩
      intro entry hentry
      rcases List.mem_cons.1 hentry with rfl | hmem
      · exact hlt
      · exact String.lt_trans hlt (hhead entry hmem)
    · split
      · rename_i heq
        subst heq
        exact List.pairwise_cons.2 ⟨hhead, hrest⟩
      · rename_i hnlt hne
        refine List.pairwise_cons.2 ⟨?_, ih hrest⟩
        intro entry hentry
        rcases mem_insertEntry hentry with rfl | hmem
        · have hle : k ≤ key := String.not_lt.1 hnlt
          exact String.not_le.1 fun hge => hne (String.le_antisymm hge hle)
        · exact hhead entry hmem

def insert (d : Dict β) (key : String) (value : β) : Dict β :=
  ⟨insertEntry key value d.entries, insertEntry_sorted key value d.sorted⟩

def get? (d : Dict β) (key : String) : Option β := d.entries.lookup key

/-- The dictionary of some pairs; of two pairs with one key the later counts. -/
def ofList (pairs : List (String × β)) : Dict β :=
  pairs.foldl (fun d pair => d.insert pair.1 pair.2) empty

def union (d other : Dict β) : Dict β :=
  other.entries.foldl (fun d pair => d.insert pair.1 pair.2) d

def keys (d : Dict β) : List String := d.entries.map (·.1)

def size (d : Dict β) : Nat := d.entries.length

def isEmpty (d : Dict β) : Bool := d.entries.isEmpty

theorem entries_injective {d e : Dict β} (h : d.entries = e.entries) : d = e := by
  cases d; cases e; cases h; rfl

/-! ## Look-up after each operation -/

@[simp] theorem get?_empty (key : String) : (empty : Dict β).get? key = none := rfl

theorem lookup_cons_eq_ite (key wanted : String) (value : β) (rest : List (String × β)) :
    ((key, value) :: rest).lookup wanted
      = if wanted = key then some value else rest.lookup wanted := by
  by_cases h : wanted = key
  · subst h; simp
  · simp [List.lookup_cons, h, beq_eq_false_iff_ne.2 h]

theorem lookup_insertEntry (key wanted : String) (value : β) (entries : List (String × β)) :
    (insertEntry key value entries).lookup wanted
      = if wanted = key then some value else entries.lookup wanted := by
  induction entries with
  | nil => simp [insertEntry, lookup_cons_eq_ite]
  | cons head rest ih =>
    obtain ⟨k, v⟩ := head
    unfold insertEntry
    split
    · simp [lookup_cons_eq_ite]
    · split
      · rename_i heq
        subst heq
        by_cases h : wanted = key <;> simp [lookup_cons_eq_ite, h]
      · rename_i hne
        by_cases hk : wanted = k
        · have hkey : ¬ wanted = key := fun h => hne (h.symm.trans hk)
          simp [hk, hk ▸ hkey]
        · simp [lookup_cons_eq_ite, hk, ih]

@[simp] theorem get?_insert (d : Dict β) (key wanted : String) (value : β) :
    (d.insert key value).get? wanted = if wanted = key then some value else d.get? wanted :=
  lookup_insertEntry key wanted value d.entries

/-! ## Equality -/

/-- A key below every key of an ascending list has no value in it. -/
theorem lookup_eq_none_of_lt {key : String} {entries : List (String × β)}
    (h : ∀ entry ∈ entries, key < entry.1) : entries.lookup key = none := by
  induction entries with
  | nil => rfl
  | cons head rest ih =>
    obtain ⟨k, v⟩ := head
    have hk : key < k := h (k, v) (by simp)
    have hne : ¬ key = k := fun e => String.lt_irrefl k (e ▸ hk)
    simp [lookup_cons_eq_ite, hne, ih fun entry hentry => h entry (by simp [hentry])]

theorem entries_eq_of_lookup {first second : List (String × β)}
    (hfirst : first.Pairwise (·.1 < ·.1)) (hsecond : second.Pairwise (·.1 < ·.1))
    (h : ∀ key, first.lookup key = second.lookup key) : first = second := by
  induction first generalizing second with
  | nil =>
    cases second with
    | nil => rfl
    | cons head rest =>
      obtain ⟨k, v⟩ := head
      have := h k
      simp at this
  | cons head rest ih =>
    obtain ⟨k, v⟩ := head
    have ⟨hk, hrest⟩ := List.pairwise_cons.1 hfirst
    cases second with
    | nil =>
      have := h k
      simp at this
    | cons head' rest' =>
      obtain ⟨k', v'⟩ := head'
      have ⟨hk', hrest'⟩ := List.pairwise_cons.1 hsecond
      have hkey : k = k' := by
        rcases Decidable.em (k < k') with hlt | hnlt
        · have hbelow : ((k', v') :: rest').lookup k = none := by
            refine lookup_eq_none_of_lt fun entry hentry => ?_
            rcases List.mem_cons.1 hentry with rfl | hmem
            · exact hlt
            · exact String.lt_trans hlt (hk' entry hmem)
          have := h k
          simp [hbelow] at this
        · rcases Decidable.em (k' < k) with hgt | hngt
          · have hbelow : ((k, v) :: rest).lookup k' = none := by
              refine lookup_eq_none_of_lt fun entry hentry => ?_
              rcases List.mem_cons.1 hentry with rfl | hmem
              · exact hgt
              · exact String.lt_trans hgt (hk entry hmem)
            have := h k'
            simp [hbelow] at this
          · exact String.le_antisymm (String.not_lt.1 hngt) (String.not_lt.1 hnlt)
      subst hkey
      have hvalue : v = v' := by
        have := h k
        simpa [lookup_cons_eq_ite] using this
      subst hvalue
      have htail : rest = rest' := by
        refine ih hrest hrest' fun key => ?_
        by_cases hke : key = k
        · subst hke
          rw [lookup_eq_none_of_lt hk, lookup_eq_none_of_lt hk']
        · have := h key
          simpa [lookup_cons_eq_ite, hke] using this
      rw [htail]

theorem ext_get? {d e : Dict β} (h : ∀ key, d.get? key = e.get? key) : d = e :=
  entries_injective (entries_eq_of_lookup d.sorted e.sorted h)

/-! ## Union -/

theorem get?_foldl_insert {entries : List (String × β)} (sorted : entries.Pairwise (·.1 < ·.1))
    (d : Dict β) (key : String) :
    (entries.foldl (fun d pair => d.insert pair.1 pair.2) d).get? key
      = (entries.lookup key).or (d.get? key) := by
  induction entries generalizing d with
  | nil => rfl
  | cons head rest ih =>
    obtain ⟨k, v⟩ := head
    have ⟨hk, hrest⟩ := List.pairwise_cons.1 sorted
    rw [List.foldl_cons, ih hrest, get?_insert, lookup_cons_eq_ite]
    by_cases hkey : key = k
    · subst hkey
      simp [lookup_eq_none_of_lt hk]
    · simp [hkey]

/-- Where both dictionaries have a value, that of the second counts. -/
theorem get?_union (d other : Dict β) (key : String) :
    (d.union other).get? key = (other.get? key).or (d.get? key) :=
  get?_foldl_insert other.sorted d key

/-- A dictionary is made up of its entries. -/
theorem ofList_entries (d : Dict β) : ofList d.entries = d := by
  refine ext_get? fun key => ?_
  rw [ofList, get?_foldl_insert d.sorted, get?_empty, Option.or_none, get?]

/-! ## Dictionaries of pairs -/

theorem get?_foldl_insert_eq_or (pairs : List (String × β)) (d : Dict β) (key : String) :
    (pairs.foldl (fun d pair => d.insert pair.1 pair.2) d).get? key
      = (pairs.reverse.lookup key).or (d.get? key) := by
  induction pairs generalizing d with
  | nil => rfl
  | cons head rest ih =>
    rw [List.foldl_cons, ih, get?_insert, List.reverse_cons, List.lookup_append,
      lookup_cons_eq_ite]
    cases rest.reverse.lookup key with
    | some value => rfl
    | none => by_cases h : key = head.1 <;> simp [h]

/-- The last pair with a key gives its value. -/
theorem get?_ofList_eq_some_iff {pairs : List (String × β)} {key : String} {value : β} :
    (ofList pairs).get? key = some value ↔
      ∃ early late, pairs = early ++ (key, value) :: late ∧ ∀ pair ∈ late, pair.1 ≠ key := by
  rw [ofList, get?_foldl_insert_eq_or, get?_empty, Option.or_none, List.lookup_eq_some_iff]
  constructor
  · rintro ⟨late, early, hpairs, hlate⟩
    refine ⟨early.reverse, late.reverse, ?_, fun pair hpair => ?_⟩
    · rw [← List.reverse_reverse pairs, hpairs]
      simp
    · exact (bne_iff_ne.1 (hlate pair (List.mem_reverse.1 hpair))).symm
  · rintro ⟨early, late, rfl, hlate⟩
    refine ⟨late.reverse, early.reverse, by simp, fun pair hpair => ?_⟩
    exact bne_iff_ne.2 (hlate pair (List.mem_reverse.1 hpair)).symm

theorem mem_of_get?_ofList {pairs : List (String × β)} {key : String} {value : β}
    (h : (ofList pairs).get? key = some value) : (key, value) ∈ pairs := by
  obtain ⟨early, late, rfl, _⟩ := get?_ofList_eq_some_iff.1 h
  simp

theorem get?_eq_some_iff_mem {d : Dict β} {key : String} {value : β} :
    d.get? key = some value ↔ (key, value) ∈ d.entries := by
  constructor
  · intro h
    exact mem_of_get?_ofList ((ofList_entries d).symm ▸ h)
  · intro h
    obtain ⟨early, late, hsplit⟩ := List.append_of_mem h
    have sorted := d.sorted
    rw [hsplit, List.pairwise_append, List.pairwise_cons] at sorted
    rw [← ofList_entries d, get?_ofList_eq_some_iff]
    refine ⟨early, late, hsplit, fun pair hpair he => ?_⟩
    exact String.lt_irrefl key (he ▸ sorted.2.1.1 pair hpair)

/-- The entries of a dictionary make it up in any order. -/
theorem ofList_of_perm {d : Dict β} {pairs : List (String × β)} (h : pairs.Perm d.entries) :
    ofList pairs = d := by
  have entriesDistinct : d.entries.Pairwise (·.1 ≠ ·.1) := by
    refine d.sorted.imp ?_
    intro first second hlt he
    exact String.lt_irrefl second.1 (he ▸ hlt)
  have distinct : pairs.Pairwise (·.1 ≠ ·.1) := h.symm.pairwise entriesDistinct Ne.symm
  refine ext_get? fun key => Option.ext fun value => ?_
  rw [get?_eq_some_iff_mem (d := d), ← h.mem_iff]
  refine ⟨mem_of_get?_ofList, fun hmem => ?_⟩
  obtain ⟨early, late, rfl⟩ := List.append_of_mem hmem
  rw [get?_ofList_eq_some_iff]
  refine ⟨early, late, rfl, fun pair hpair he => ?_⟩
  exact (List.pairwise_cons.1 (List.pairwise_append.1 distinct).2.1).1 pair hpair he.symm

end Dict

end BrowserPods
