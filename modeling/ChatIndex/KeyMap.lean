/-! # Maps with text keys

A finite map is kept as its list of entries in strictly ascending key order, so that two maps
with the same look-ups are equal (`KeyMap.ext_get?`).  The order of keys is that of `String`: by
code point.

The same insertion also works on bare lists of entries (`Entries`), which is how the members of
a JSON object are kept.  Each operation has one equation through the view `get?`:

* `get?_insert`  `(m.insert k v).get? a = if a = k then some v else m.get? a`
* `get?_erase`   `(m.erase k).get? a = if a = k then none else m.get? a`
* `get?_filter`  `(m.filter p).get? a = (m.get? a).filter (p a)`
* `get?_map`     `(m.map f).get? a = (m.get? a).map (f a)`
* `get?_ofList`  the value of a key is that of its last entry
* `mem_sortedDistinct`  the distinct texts of a list are its texts
-/

namespace ChatIndex

variable {α β : Type}

/-! ## Lists of entries -/

namespace Entries

/-- The keys increase strictly. -/
def Sorted (es : List (String × α)) : Prop :=
  es.Pairwise fun a b => a.1 < b.1

/-- The value of a key: that of its first entry. -/
def get? : List (String × α) → String → Option α
  | [], _ => none
  | (k, v) :: rest, a => if a = k then some v else get? rest a

/-- Writes a value at its place in the order, over the value the key had. -/
def insert (a : String) (x : α) : List (String × α) → List (String × α)
  | [] => [(a, x)]
  | (k, v) :: rest =>
    if a = k then (a, x) :: rest
    else if a < k then (a, x) :: (k, v) :: rest
    else (k, v) :: insert a x rest

/-- Entries in any order, written one after the other: of a repeated key the last value stays. -/
def ofList (es : List (String × α)) : List (String × α) :=
  es.foldl (fun acc e => insert e.1 e.2 acc) []

theorem lt_of_ne_of_not_lt {a b : String} (hne : a ≠ b) (hlt : ¬ a < b) : b < a := by
  by_cases h : b < a
  · exact h
  · exact absurd (String.le_antisymm (String.not_lt.1 h) (String.not_lt.1 hlt)) hne

theorem mem_insert {a : String} {x : α} {es : List (String × α)} {e : String × α}
    (h : e ∈ insert a x es) : e = (a, x) ∨ e ∈ es := by
  induction es with
  | nil => simpa [insert] using h
  | cons kv rest ih =>
    obtain ⟨k, v⟩ := kv
    simp only [insert] at h
    split at h
    · rcases List.mem_cons.1 h with h | h
      · exact .inl h
      · exact .inr (List.mem_cons_of_mem _ h)
    · split at h
      · rcases List.mem_cons.1 h with h | h
        · exact .inl h
        · exact .inr h
      · rcases List.mem_cons.1 h with h | h
        · exact .inr (h ▸ List.mem_cons_self)
        · exact (ih h).imp_right (List.mem_cons_of_mem _)

theorem Sorted.insert {es : List (String × α)} (hs : Sorted es) (a : String) (x : α) :
    Sorted (Entries.insert a x es) := by
  induction es with
  | nil => simp [Entries.insert, Sorted]
  | cons kv rest ih =>
    obtain ⟨k, v⟩ := kv
    have hs' := List.pairwise_cons.1 hs
    simp only [Entries.insert]
    split
    · next h => subst h; exact List.pairwise_cons.2 ⟨hs'.1, hs'.2⟩
    · next hne =>
      split
      · next hlt =>
        refine List.pairwise_cons.2 ⟨fun e he => ?_, hs⟩
        rcases List.mem_cons.1 he with rfl | he
        · exact hlt
        · exact String.lt_trans hlt (hs'.1 e he)
      · next hlt =>
        refine List.pairwise_cons.2 ⟨fun e he => ?_, ih hs'.2⟩
        rcases mem_insert he with rfl | he
        · exact lt_of_ne_of_not_lt hne hlt
        · exact hs'.1 e he

theorem sorted_foldl_insert {acc : List (String × α)} (h : Sorted acc) (es : List (String × α)) :
    Sorted (es.foldl (fun acc e => Entries.insert e.1 e.2 acc) acc) := by
  induction es generalizing acc with
  | nil => exact h
  | cons e es ih => exact ih (h.insert e.1 e.2)

theorem sorted_ofList (es : List (String × α)) : Sorted (ofList es) :=
  sorted_foldl_insert List.Pairwise.nil es

theorem get?_insert (a b : String) (x : α) (es : List (String × α)) :
    get? (insert a x es) b = if b = a then some x else get? es b := by
  induction es with
  | nil => simp [insert, get?]
  | cons kv rest ih =>
    obtain ⟨k, v⟩ := kv
    simp only [insert]
    split
    · next h => subst h; simp only [get?]; split <;> rfl
    · split
      · simp only [get?]
      · next hne _ =>
        simp only [get?, ih]
        split
        · next hb => rw [if_neg]; rintro rfl; exact hne hb
        · rfl

/-- A key below every entry has no value. -/
theorem get?_eq_none_of_lt {a : String} {es : List (String × α)} (h : ∀ e ∈ es, a < e.1) :
    get? es a = none := by
  induction es with
  | nil => rfl
  | cons kv rest ih =>
    obtain ⟨k, v⟩ := kv
    have hk : a < k := h (k, v) List.mem_cons_self
    simp only [get?]
    rw [if_neg (fun heq : a = k => String.lt_irrefl k (heq ▸ hk))]
    exact ih fun e he => h e (List.mem_cons_of_mem _ he)

theorem mem_of_get? {a : String} {x : α} {es : List (String × α)} (h : get? es a = some x) :
    (a, x) ∈ es := by
  induction es with
  | nil => simp [get?] at h
  | cons kv rest ih =>
    obtain ⟨k, v⟩ := kv
    simp only [get?] at h
    split at h
    · next hk => subst hk; simp only [Option.some.injEq] at h; subst h; exact List.mem_cons_self
    · exact List.mem_cons_of_mem _ (ih h)

theorem get?_of_mem {a : String} {x : α} {es : List (String × α)} (hs : Sorted es)
    (h : (a, x) ∈ es) : get? es a = some x := by
  induction es with
  | nil => simp at h
  | cons kv rest ih =>
    obtain ⟨k, v⟩ := kv
    have hs' := List.pairwise_cons.1 hs
    rcases List.mem_cons.1 h with h | h
    · cases h; simp [get?]
    · have hlt : k < a := hs'.1 _ h
      simp only [get?]
      rw [if_neg (fun heq : a = k => String.lt_irrefl k (heq ▸ hlt))]
      exact ih hs'.2 h

theorem mem_iff_get? {a : String} {x : α} {es : List (String × α)} (hs : Sorted es) :
    (a, x) ∈ es ↔ get? es a = some x :=
  ⟨get?_of_mem hs, mem_of_get?⟩

theorem get?_filter {es : List (String × α)} (hs : Sorted es) (p : String → α → Bool)
    (a : String) :
    get? (es.filter fun e => p e.1 e.2) a = (get? es a).filter (p a) := by
  induction es with
  | nil => rfl
  | cons kv rest ih =>
    obtain ⟨k, v⟩ := kv
    have hs' := List.pairwise_cons.1 hs
    by_cases hak : a = k
    · subst hak
      cases hp : p a v with
      | true => simp [get?, hp, Option.filter]
      | false =>
        have : get? (rest.filter fun e => p e.1 e.2) a = none :=
          get?_eq_none_of_lt fun e he => hs'.1 e (List.mem_filter.1 he).1
        simp [get?, hp, this, Option.filter]
    · cases hp : p k v <;> simp [get?, hp, hak, ih hs'.2]

/-- What is left of entries without a key does not depend on its value. -/
theorem filter_insert (a : String) (x : α) (es : List (String × α)) :
    (insert a x es).filter (·.1 ≠ a) = es.filter (·.1 ≠ a) := by
  induction es with
  | nil => simp [insert]
  | cons e es ih =>
    obtain ⟨k, v⟩ := e
    rw [insert]
    split
    · next hkey => simp [hkey]
    · split
      · simp
      · simp only [List.filter_cons, ih]

theorem get?_map (es : List (String × α)) (f : String → α → β) (a : String) :
    get? (es.map fun e => (e.1, f e.1 e.2)) a = (get? es a).map (f a) := by
  induction es with
  | nil => rfl
  | cons kv rest ih =>
    obtain ⟨k, v⟩ := kv
    by_cases hak : a = k
    · subst hak; simp [get?]
    · simp [get?, hak, ih]

/-- Sorted lists with the same look-ups are equal. -/
theorem ext_get? {es fs : List (String × α)} (he : Sorted es) (hf : Sorted fs)
    (h : ∀ a, get? es a = get? fs a) : es = fs := by
  induction es generalizing fs with
  | nil =>
    cases fs with
    | nil => rfl
    | cons f fs => have := h f.1; simp [get?] at this
  | cons e es ih =>
    obtain ⟨k, v⟩ := e
    cases fs with
    | nil => have := h k; simp [get?] at this
    | cons f fs =>
      obtain ⟨l, w⟩ := f
      have he' := List.pairwise_cons.1 he
      have hf' := List.pairwise_cons.1 hf
      have hkl : k = l := by
        by_cases hkl : k = l
        · exact hkl
        · have h1 : (l, w) ∈ es := by
            have : get? ((k, v) :: es) l = some w := (h l).trans (by simp [get?])
            exact (List.mem_cons.1 (mem_of_get? this)).resolve_left
              (fun e => hkl (Prod.mk.inj e).1.symm)
          have h2 : (k, v) ∈ fs := by
            have : get? ((l, w) :: fs) k = some v := (h k).symm.trans (by simp [get?])
            exact (List.mem_cons.1 (mem_of_get? this)).resolve_left
              (fun e => hkl (Prod.mk.inj e).1)
          exact absurd (String.lt_trans (he'.1 _ h1) (hf'.1 _ h2)) (String.lt_irrefl k)
      subst hkl
      have hv : v = w := by have := h k; simpa [get?] using this
      subst hv
      refine congrArg _ (ih he'.2 hf'.2 fun a => ?_)
      by_cases ha : a = k
      · subst ha
        rw [get?_eq_none_of_lt he'.1, get?_eq_none_of_lt hf'.1]
      · have := h a
        simpa [get?, ha] using this

end Entries

/-! ## Maps -/

/-- A finite map from texts, as its entries in ascending key order. -/
structure KeyMap (α : Type) where
  entries : List (String × α)
  sorted : Entries.Sorted entries

namespace KeyMap

/-- The map without entries. -/
def empty : KeyMap α :=
  ⟨[], List.Pairwise.nil⟩

instance : Inhabited (KeyMap α) :=
  ⟨empty⟩

/-- The value of a key. -/
def get? (m : KeyMap α) (a : String) : Option α :=
  Entries.get? m.entries a

/-- Whether a key has a value. -/
def contains (m : KeyMap α) (a : String) : Bool :=
  (m.get? a).isSome

/-- Gives a key a value. -/
def insert (m : KeyMap α) (a : String) (x : α) : KeyMap α :=
  ⟨Entries.insert a x m.entries, m.sorted.insert a x⟩

/-- Keeps the entries that pass a test. -/
def filter (m : KeyMap α) (p : String → α → Bool) : KeyMap α :=
  ⟨m.entries.filter fun e => p e.1 e.2, List.Pairwise.filter _ m.sorted⟩

/-- Removes a key. -/
def erase (m : KeyMap α) (a : String) : KeyMap α :=
  m.filter fun k _ => k ≠ a

/-- Changes each value. -/
def map (m : KeyMap α) (f : String → α → β) : KeyMap β :=
  ⟨m.entries.map fun e => (e.1, f e.1 e.2), by
    rw [Entries.Sorted, List.pairwise_map]; exact m.sorted⟩

/-- Entries in any order; of a repeated key the last value stays. -/
def ofList (es : List (String × α)) : KeyMap α :=
  ⟨Entries.ofList es, Entries.sorted_ofList es⟩

/-- The keys, ascending. -/
def keys (m : KeyMap α) : List String :=
  m.entries.map Prod.fst

/-- The number of entries. -/
def size (m : KeyMap α) : Nat :=
  m.entries.length

/-- Writes the entries of `n` over those of `m`. -/
def merge (m n : KeyMap α) : KeyMap α :=
  n.entries.foldl (fun acc e => acc.insert e.1 e.2) m

instance [DecidableEq α] : DecidableEq (KeyMap α) := fun m n =>
  decidable_of_iff (m.entries = n.entries)
    ⟨fun h => by cases m; cases n; cases h; rfl, fun h => h ▸ rfl⟩

/-! ## One equation per operation -/

/-- Maps with the same look-ups are equal. -/
theorem ext_get? {m n : KeyMap α} (h : ∀ a, m.get? a = n.get? a) : m = n := by
  obtain ⟨es, hs⟩ := m
  obtain ⟨fs, ht⟩ := n
  cases Entries.ext_get? hs ht h
  rfl

@[simp] theorem get?_empty (a : String) : (empty : KeyMap α).get? a = none := rfl

theorem get?_insert (m : KeyMap α) (a b : String) (x : α) :
    (m.insert a x).get? b = if b = a then some x else m.get? b :=
  Entries.get?_insert a b x m.entries

/-- A value written later replaces the one before. -/
theorem insert_insert (m : KeyMap α) (a : String) (x y : α) :
    (m.insert a x).insert a y = m.insert a y :=
  ext_get? fun b => by simp only [get?_insert]; split <;> rfl

/-- Values of different keys can be written in either order. -/
theorem insert_comm (m : KeyMap α) {a b : String} (h : a ≠ b) (x y : α) :
    (m.insert a x).insert b y = (m.insert b y).insert a x := by
  refine ext_get? fun c => ?_
  simp only [get?_insert]
  by_cases hb : c = b
  · rw [if_pos hb, if_neg (fun ha : c = a => h (ha.symm.trans hb)), if_pos hb]
  · rw [if_neg hb, if_neg hb]

theorem get?_filter (m : KeyMap α) (p : String → α → Bool) (a : String) :
    (m.filter p).get? a = (m.get? a).filter (p a) :=
  Entries.get?_filter m.sorted p a

theorem get?_erase (m : KeyMap α) (a b : String) :
    (m.erase a).get? b = if b = a then none else m.get? b := by
  rw [erase, get?_filter]
  cases m.get? b with
  | none => simp
  | some x => by_cases h : b = a <;> simp [Option.filter, h]

theorem get?_map (m : KeyMap α) (f : String → α → β) (a : String) :
    (m.map f).get? a = (m.get? a).map (f a) :=
  Entries.get?_map m.entries f a

private theorem get?_foldl_insert (es : List (String × α)) (m : KeyMap α) (a : String) :
    (es.foldl (fun acc e => acc.insert e.1 e.2) m).get? a =
      ((es.reverse.find? fun e => a = e.1).map Prod.snd).or (m.get? a) := by
  induction es generalizing m with
  | nil => simp
  | cons e es ih =>
    rw [List.foldl_cons, ih, List.reverse_cons, List.find?_append, get?_insert]
    cases es.reverse.find? fun e => a = e.1 with
    | some e' => simp
    | none => by_cases h : a = e.1 <;> simp [h]

private theorem entries_foldl_insert (es : List (String × α)) (m : KeyMap α) :
    (es.foldl (fun acc e => acc.insert e.1 e.2) m).entries =
      es.foldl (fun acc e => Entries.insert e.1 e.2 acc) m.entries := by
  induction es generalizing m with
  | nil => rfl
  | cons e es ih => exact ih (m.insert e.1 e.2)

/-- A map from a list has for each key the value of its last entry. -/
theorem get?_ofList (es : List (String × α)) (a : String) :
    (ofList es).get? a = (es.reverse.find? fun e => a = e.1).map Prod.snd := by
  have h := get?_foldl_insert es empty a
  rw [get?_empty, Option.or_none] at h
  rw [← h]
  exact congrArg (Entries.get? · a) (entries_foldl_insert es empty).symm

/-- A map with one entry writes that entry. -/
theorem merge_insert_empty (m : KeyMap α) (a : String) (x : α) :
    m.merge (empty.insert a x) = m.insert a x := rfl

theorem contains_iff (m : KeyMap α) (a : String) :
    m.contains a = true ↔ ∃ x, m.get? a = some x := by
  rw [contains, Option.isSome_iff_exists]

theorem mem_entries_iff (m : KeyMap α) (a : String) (x : α) :
    (a, x) ∈ m.entries ↔ m.get? a = some x :=
  Entries.mem_iff_get? m.sorted

theorem mem_keys_iff (m : KeyMap α) (a : String) : a ∈ m.keys ↔ ∃ x, m.get? a = some x := by
  simp [keys, mem_entries_iff]

theorem pairwise_keys (m : KeyMap α) : m.keys.Pairwise (· < ·) :=
  List.pairwise_map.2 m.sorted

/-- A key is found in a map from a list just if the list has an entry of it. -/
theorem exists_get?_ofList_iff (es : List (String × α)) (a : String) :
    (∃ x, (ofList es).get? a = some x) ↔ a ∈ es.map Prod.fst := by
  rw [get?_ofList, ← Option.isSome_iff_exists, Option.isSome_map, List.find?_isSome]
  simp

private theorem eq_of_nodup_keys {es : List (String × α)} (hnodup : (es.map Prod.fst).Nodup)
    {a : String} {x y : α} (hx : (a, x) ∈ es) (hy : (a, y) ∈ es) : x = y := by
  induction es with
  | nil => simp at hx
  | cons e es ih =>
    obtain ⟨hfirst, hrest⟩ := List.nodup_cons.1 hnodup
    rcases List.mem_cons.1 hx with hx | hx
    · rcases List.mem_cons.1 hy with hy | hy
      · exact (Prod.mk.inj (hx.trans hy.symm)).2
      · have hkey : e.1 = a := congrArg Prod.fst hx.symm
        exact absurd (hkey ▸ List.mem_map_of_mem hy) hfirst
    · rcases List.mem_cons.1 hy with hy | hy
      · have hkey : e.1 = a := congrArg Prod.fst hy.symm
        exact absurd (hkey ▸ List.mem_map_of_mem hx) hfirst
      · exact ih hrest hx hy

/-- Where no key is repeated, the value of a key is that of its only entry. -/
theorem get?_ofList_eq_some_iff {es : List (String × α)} (hnodup : (es.map Prod.fst).Nodup)
    (a : String) (x : α) : (ofList es).get? a = some x ↔ (a, x) ∈ es := by
  have hmem : ∀ y, (ofList es).get? a = some y → (a, y) ∈ es := by
    intro y hy
    rw [get?_ofList, Option.map_eq_some_iff] at hy
    obtain ⟨e, hfind, rfl⟩ := hy
    have hkey : a = e.1 := by simpa using List.find?_some hfind
    exact hkey ▸ List.mem_reverse.1 (List.mem_of_find?_eq_some hfind)
  constructor
  · exact hmem x
  · intro hx
    obtain ⟨y, hy⟩ := (exists_get?_ofList_iff es a).2 (List.mem_map_of_mem hx)
    rw [hy, eq_of_nodup_keys hnodup (hmem y hy) hx]

/-- A map is made of its own entries. -/
theorem ofList_entries (m : KeyMap α) : ofList m.entries = m := by
  have hnodup : (m.entries.map Prod.fst).Nodup := by
    refine m.pairwise_keys.imp ?_
    rintro a b hlt rfl
    exact String.lt_irrefl a hlt
  refine ext_get? fun a => Option.ext fun x => ?_
  rw [get?_ofList_eq_some_iff hnodup, mem_entries_iff]

end KeyMap

/-! ## Distinct texts -/

/-- The distinct texts of a list, in ascending order. -/
def sortedDistinct (texts : List String) : List String :=
  (KeyMap.ofList (texts.map fun t => (t, ()))).keys

theorem mem_sortedDistinct {t : String} {texts : List String} :
    t ∈ sortedDistinct texts ↔ t ∈ texts := by
  rw [sortedDistinct, KeyMap.mem_keys_iff, KeyMap.exists_get?_ofList_iff]
  simp

theorem pairwise_sortedDistinct (texts : List String) :
    (sortedDistinct texts).Pairwise (· < ·) :=
  KeyMap.pairwise_keys _

theorem nodup_sortedDistinct (texts : List String) : (sortedDistinct texts).Nodup := by
  refine (pairwise_sortedDistinct texts).imp ?_
  intro a b hlt heq
  exact String.lt_irrefl b (heq ▸ hlt)

theorem sortedDistinct_eq_nil_iff {texts : List String} :
    sortedDistinct texts = [] ↔ texts = [] := by
  simp only [List.eq_nil_iff_forall_not_mem, mem_sortedDistinct]

end ChatIndex
