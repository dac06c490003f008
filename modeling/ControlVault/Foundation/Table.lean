import Mathlib.Data.List.AList

namespace ControlVault.Foundation

open List AList

/-!
# Hash maps with an unspecified iteration order

The daemon keeps its state in hash maps.  A lookup does not depend on the
order in which such a map is traversed, whereas a search or a loop over its
values does, and the order may change whenever the map is rehashed.

A `Table` is an association list without repeated keys.  Its list order is the
order in which one call happens to visit the entries.  `Reordered` relates two
tables with the same entries in another order, so a statement that holds for
every reordering holds for every iteration order of the real map.
-/

universe u v w

/-- A finite map whose entry list is the current iteration order. -/
def Table (K : Type u) (V : Type v) : Type (max u v) :=
  AList (fun _ : K => V)

namespace Table

variable {K : Type u} {V : Type v}

def empty : Table K V := (∅ : AList (fun _ : K => V))

/-- The entries in iteration order. -/
def toList (table : Table K V) : List (K × V) :=
  (entries table).map (fun entry => (entry.1, entry.2))

def values (table : Table K V) : List V :=
  table.toList.map Prod.snd

/-- Update every value, as a loop over `values_mut` does. -/
def mapValues (update : K -> V -> V) (table : Table K V) : Table K V :=
  ⟨(entries table).map (fun entry => ⟨entry.1, update entry.1 entry.2⟩),
    List.NodupKeys.map₂ update _ (nodupKeys table)⟩

/-- Keep the entries selected by a test, as `HashMap::retain` does. -/
def retain (keep : K -> V -> Bool) (table : Table K V) : Table K V :=
  ⟨(entries table).filter (fun entry => keep entry.1 entry.2),
    List.NodupKeys.sublist filter_sublist (nodupKeys table)⟩

/-- The first entry, in iteration order, whose value passes a test. -/
def find (test : V -> Bool) (table : Table K V) : Option (K × V) :=
  table.toList.find? (fun entry => test entry.2)

/-- The number of values that pass a test. -/
def count (test : V -> Bool) (table : Table K V) : Nat :=
  table.values.countP test

/-- Offer each value to an attempt that may change it, and stop at the first success. -/
def tryEntries {R : Type w} (attempt : V -> Option R × V) :
    List (Sigma fun _ : K => V) -> Option R × List (Sigma fun _ : K => V)
  | [] => (none, [])
  | ⟨key, value⟩ :: rest =>
    match attempt value with
    | (some result, changed) => (some result, ⟨key, changed⟩ :: rest)
    | (none, changed) =>
      ((tryEntries attempt rest).1, ⟨key, changed⟩ :: (tryEntries attempt rest).2)

theorem keys_tryEntries {R : Type w} (attempt : V -> Option R × V)
    (entries : List (Sigma fun _ : K => V)) :
    (tryEntries attempt entries).2.keys = entries.keys := by
  induction entries with
  | nil => rfl
  | cons entry rest ih =>
    rw [tryEntries]
    split
    · rfl
    · rw [keys_cons, keys_cons, ih]

/-- A loop over `values_mut` that returns at the first success. -/
def tryEach {R : Type w} (attempt : V -> Option R × V) (table : Table K V) :
    Option R × Table K V :=
  ((tryEntries attempt (entries table)).1, ⟨(tryEntries attempt (entries table)).2, by
      rw [List.NodupKeys, keys_tryEntries]
      exact nodupKeys table⟩)

theorem nodup_keys (table : Table K V) : (table.toList.map Prod.fst).Nodup := by
  rw [toList, map_map]
  exact nodupKeys table

/-- Same entries, possibly visited in another order. -/
def Reordered (first second : Table K V) : Prop :=
  (entries first).Perm (entries second)

section Lookup

variable [DecidableEq K]

section

variable (table : Table K V) (key : K)

def get : Option V :=
  lookup key table

def insert (value : V) : Table K V :=
  AList.insert key value table

def remove : Table K V :=
  erase key table

/-- Update one value in place, as writing through `get_mut` does. -/
def modify (update : V -> V) : Table K V :=
  table.mapValues (fun other value => if other = key then update value else value)

end

@[simp] theorem get_empty (key : K) : (empty : Table K V).get key = none :=
  AList.lookup_empty key

theorem get_insert (table : Table K V) (key other : K) (value : V) :
    (table.insert key value).get other = if other = key then some value else table.get other := by
  by_cases same : other = key
  · subst other
    rw [if_pos rfl]
    exact lookup_insert table
  · rw [if_neg same]
    exact AList.lookup_insert_ne same

@[simp] theorem get_insert_self (table : Table K V) (key : K) (value : V) :
    (table.insert key value).get key = some value := by
  rw [get_insert, if_pos rfl]

variable {other key : K} {table : Table K V} {value : V} {R : Type w}

theorem get_insert_of_ne (table : Table K V) (value : V) (different : other ≠ key) :
    (table.insert key value).get other = table.get other := by
  rw [get_insert, if_neg different]

theorem get_remove (table : Table K V) (key other : K) :
    (table.remove key).get other = if other = key then none else table.get other := by
  by_cases same : other = key
  · subst other
    rw [if_pos rfl]
    exact lookup_erase _ table
  · rw [if_neg same]
    exact lookup_erase_ne same

theorem get_foldl_remove (keys : List K) (table : Table K V) (other : K) :
    (keys.foldl remove table).get other = if other ∈ keys then none else table.get other := by
  induction keys generalizing table with
  | nil => rfl
  | cons key rest ih =>
    rw [foldl_cons, ih, get_remove]
    by_cases later : other ∈ rest
    · rw [if_pos later, if_pos (mem_cons_of_mem _ later)]
    · by_cases same : other = key
      · rw [if_neg later, if_pos same, if_pos (same ▸ mem_cons_self)]
      · rw [if_neg later, if_neg same, if_neg (by simp [same, later])]

@[simp] theorem get_mapValues (update : K -> V -> V) (table : Table K V) (key : K) :
    (table.mapValues update).get key = (table.get key).map (update key) :=
  dlookup_map₂ key

section

variable (table : Table K V)

theorem get_modify (key other : K) (update : V -> V) :
    (table.modify key update).get other =
      if other = key then (table.get other).map update else table.get other := by
  rw [modify, get_mapValues]
  by_cases same : other = key
  · simp only [if_pos same]
  · simp only [if_neg same, Option.map_id']

@[simp] theorem get_modify_self (key : K) (update : V -> V) :
    (table.modify key update).get key = (table.get key).map update := by
  rw [get_modify, if_pos rfl]

theorem get_modify_of_ne (update : V -> V) (different : other ≠ key) :
    (table.modify key update).get other = table.get other := by
  rw [get_modify, if_neg different]

/-- Membership in the entry list is exactly a successful lookup. -/
theorem mem_toList (key : K) (value : V) :
    (key, value) ∈ table.toList <-> table.get key = some value := by
  have lookup : table.get key = some value <-> (⟨key, value⟩ : Sigma fun _ : K => V) ∈
      entries table := mem_lookup_iff
  rw [lookup]
  constructor
  · intro mem
    rcases mem_map.mp mem with ⟨⟨_, _⟩, found, same⟩
    cases same
    exact found
  · intro mem
    exact mem_map.mpr ⟨_, mem, rfl⟩

theorem mem_values (value : V) : value ∈ table.values <-> ∃ key, table.get key = some value := by
  constructor
  · intro mem
    rcases mem_map.mp mem with ⟨⟨key, found⟩, inside, rfl⟩
    exact ⟨key, (table.mem_toList key found).mp inside⟩
  · rintro ⟨key, found⟩
    exact mem_map.mpr ⟨(key, value), (table.mem_toList key value).mpr found, rfl⟩

end

@[simp] theorem get_retain (keep : K -> V -> Bool) (table : Table K V) (key : K) :
    (table.retain keep).get key = (table.get key).filter (keep key) := by
  apply Option.ext
  intro value
  have kept : (table.retain keep).get key = some value <-> (⟨key, value⟩ : Sigma fun _ : K => V) ∈
        (entries table).filter (fun entry => keep entry.1 entry.2) := mem_lookup_iff
  have original : table.get key = some value <-> (⟨key, value⟩ : Sigma fun _ : K => V) ∈
      entries table := mem_lookup_iff
  rw [kept, mem_filter, <- original, Option.filter_eq_some_iff]

theorem find_some (found : table.find test = some (key, value)) :
    table.get key = some value /\ test value = true :=
  ⟨(table.mem_toList key value).mp (mem_of_find?_eq_some found),
    find?_some (p := fun entry : K × V => test entry.2) found⟩

theorem find_none (missing : table.find test = none) (found : table.get key = some value) :
    test value = false := by
  have absent := find?_eq_none.mp missing (key, value) ((table.mem_toList key value).mpr found)
  exact Bool.eq_false_iff.mpr absent

/-- A value that passes the test makes the search succeed, whatever the order. -/
theorem find_isSome (found : table.get key = some value) (passes : test value = true) :
    ∃ entry, table.find test = some entry := by
  cases search : table.find test with
  | some entry => exact ⟨entry, rfl⟩
  | none =>
    rw [find_none search found] at passes
    exact absurd passes Bool.false_ne_true

/-- What a loop with an early return leaves behind: entries before the success
were tried and changed, the successful one was changed, later ones were not. -/
inductive Tried {R : Type w} (attempt : V -> Option R × V) (before : K -> Option V) :
    Option R -> (K -> Option V) -> Prop
  | failed {after : K -> Option V}
      (all : ∀ key value, before key = some value -> (attempt value).1 = none)
      (changed : ∀ key, after key = (before key).map (fun value => (attempt value).2)) :
      Tried attempt before none after
  | succeeded {after : K -> Option V} {result : R} {key : K} {value : V}
      (found : before key = some value) (success : (attempt value).1 = some result)
      (changed : after key = some (attempt value).2)
      (others : ∀ other, other ≠ key -> after other = before other ∨
        ∃ tried, before other = some tried /\ (attempt tried).1 = none /\
          after other = some (attempt tried).2) :
      Tried attempt before (some result) after

theorem dlookup_cons (head key : K) (value : V) (rest : List (Sigma fun _ : K => V)) :
    dlookup key (⟨head, value⟩ :: rest) = if key = head then some value else dlookup key rest := by
  by_cases same : key = head
  · rw [if_pos same, same, dlookup_cons_eq]
  · rw [if_neg same, dlookup_cons_ne _ _ same]

private theorem tryEntries_spec (attempt : V -> Option R × V)
    (entries : List (Sigma fun _ : K => V)) (distinct : entries.NodupKeys) :
    Tried attempt (fun key => entries.dlookup key) (tryEntries attempt entries).1
      (fun key => (tryEntries attempt entries).2.dlookup key) := by
  induction entries with
  | nil =>
    apply Tried.failed
    · intro key value found
      cases found
    · intro key
      rfl
  | cons entry rest ih =>
    rcases entry with ⟨head, value⟩
    rcases nodupKeys_cons.mp distinct with ⟨notLater, distinctRest⟩
    rw [tryEntries]
    split
    next result changed tried =>
      refine Tried.succeeded (dlookup_cons_eq rest head value) ?_ ?_ ?_
      · rw [tried]
      · rw [tried]
        exact dlookup_cons_eq rest head changed
      · intro other different
        left
        simp only [dlookup_cons, if_neg different]
    next changed tried =>
      have missed : (attempt value).1 = none := by rw [tried]
      have left : (attempt value).2 = changed := by rw [tried]
      have later := ih distinctRest
      generalize (tryEntries attempt rest).1 = outcome at later
      simp only [dlookup_cons]
      cases later with
      | failed all changedRest =>
        apply Tried.failed
        · intro key other found
          split_ifs at found
          · cases found
            exact missed
          · exact all key other found
        · intro key
          split_ifs
          · rw [Option.map_some, left]
          · exact changedRest key
      | @succeeded _ result key other found success changedKey others =>
        have different : key ≠ head := by
          intro same
          subst key
          exact notLater (dlookup_isSome.mp (by rw [found]; rfl))
        refine Tried.succeeded ((if_neg different).trans found) success ?_ ?_
        · exact (if_neg different).trans changedKey
        · intro third thirdDifferent
          split_ifs
          · exact .inr ⟨value, rfl, missed, by rw [left]⟩
          · exact others third thirdDifferent

theorem tryEach_spec (attempt : V -> Option R × V) (table : Table K V) :
    Tried attempt table.get (table.tryEach attempt).1 (table.tryEach attempt).2.get :=
  tryEntries_spec attempt (AList.entries table) (AList.nodupKeys table)

/-- A new entry comes first, so any entry may. -/
theorem Reordered.insert (found : table.get key = some value) :
    Reordered table (table.insert key value) := by
  have mem : (⟨key, value⟩ : Sigma fun _ : K => V) ∈ entries table :=
    mem_lookup_iff.mp found
  have listed : key ∈ (entries table).keys := mem_keys_of_mem mem
  rcases exists_of_kerase listed with ⟨other, front, back, -, split, erased⟩
  cases (nodupKeys table).eq_of_mk_mem mem (split ▸ mem_append_cons_self)
  change (entries table).Perm (_ :: kerase key (entries table))
  rw [erased, split]
  exact perm_middle

theorem Reordered.get_eq {first second : Table K V} (reordered : Reordered first second) (key : K) :
    first.get key = second.get key :=
  perm_lookup reordered

end Lookup

theorem Reordered.refl (table : Table K V) : Reordered table table :=
  List.Perm.refl _

end Table

end ControlVault.Foundation
