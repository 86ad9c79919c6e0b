import Mathlib.Data.List.AList

/-!
# Dictionaries which are filled up from defaults

A dictionary is written key by key and read back with defaults for the keys
which it lacks, so that a key which was not written reads as its default.
-/

namespace Lib

/-- A finite map whose keys may be enumerated. -/
abbrev Dictionary (κ ν : Type*) := AList (fun _ : κ => ν)

namespace Dictionary

variable {κ ν : Type*} [DecidableEq κ] {dict saved before : Dictionary κ ν}
  {pairs : List (κ × ν)} {key : κ}

/-- Writes the pairs, the later ones over the earlier ones. -/
def setItems (dict : Dictionary κ ν) (pairs : List (κ × ν)) : Dictionary κ ν :=
  pairs.foldl (fun dict pair => dict.insert pair.1 pair.2) dict

/-- A key which is not written keeps its value. -/
theorem lookup_setItems (dict : Dictionary κ ν)
    (unwritten : key ∉ pairs.map Prod.fst) :
    (dict.setItems pairs).lookup key = dict.lookup key := by
  induction pairs generalizing dict with
  | nil => rfl
  | cons pair pairs induction =>
      rw [List.map_cons, List.mem_cons, not_or] at unwritten
      have rest := induction (dict.insert pair.1 pair.2) unwritten.2
      rw [setItems, List.foldl_cons]
      rw [setItems] at rest
      rw [rest, AList.lookup_insert_ne unwritten.1]

/-- A key has the value which is written last. -/
theorem lookup_setItems_last (front : List (κ × ν)) {back : List (κ × ν)}
    {value : ν} (last : key ∉ back.map Prod.fst) :
    (dict.setItems (front ++ (key, value) :: back)).lookup key =
      some value := by
  have kept := lookup_setItems ((dict.setItems front).insert key value) last
  rw [AList.lookup_insert, setItems, setItems] at kept
  rw [setItems, List.foldl_append, List.foldl_cons]
  exact kept

theorem mem_setItems (written : key ∈ pairs.map Prod.fst) :
    key ∈ dict.setItems pairs := by
  induction pairs generalizing dict with
  | nil => cases written
  | cons pair pairs induction =>
      by_cases later : key ∈ pairs.map Prod.fst
      · exact induction later
      · rw [List.map_cons, List.mem_cons] at written
        have here := written.resolve_right later
        have kept := lookup_setItems (dict.insert pair.1 pair.2) later
        rw [← AList.lookup_isSome, setItems, List.foldl_cons]
        rw [setItems] at kept
        rw [kept, here, AList.lookup_insert, Option.isSome_some]

/-- What a key reads as was written, or was there before. -/
theorem lookup_setItems_cases {value : ν}
    (found : (dict.setItems pairs).lookup key = some value) :
    (key, value) ∈ pairs ∨ dict.lookup key = some value := by
  induction pairs generalizing dict with
  | nil => exact Or.inr found
  | cons pair pairs induction =>
      rcases induction found with later | before
      · exact Or.inl (List.mem_cons_of_mem _ later)
      · by_cases same : key = pair.1
        · rw [same, AList.lookup_insert] at before
          left
          rw [same, ← Option.some.inj before]
          exact List.mem_cons_self
        · rw [AList.lookup_insert_ne same] at before
          exact Or.inr before

/-- Of the values which are written under a key the last one is read. -/
theorem lookup_setItems_getLast (dict : Dictionary κ ν) (pairs : List (κ × ν))
    (key : κ) :
    (dict.setItems pairs).lookup key =
      ((pairs.filter (·.1 = key)).map (·.2)).getLast?.or (dict.lookup key) := by
  induction pairs generalizing dict with
  | nil => rfl
  | cons pair pairs induction =>
      have later := induction (dict.insert pair.1 pair.2)
      rw [setItems] at later
      rw [setItems, List.foldl_cons, later]
      by_cases own : pair.1 = key
      · rw [List.filter_cons_of_pos (by simp [own]), List.map_cons,
          List.getLast?_cons, ← own, AList.lookup_insert]
        cases ((pairs.filter (·.1 = pair.1)).map (·.2)).getLast? <;> rfl
      · rw [List.filter_cons_of_neg (by simp [own]),
          AList.lookup_insert_ne (Ne.symm own)]

/-- Pairs in a list, without those of one key. -/
theorem lookup_filter_ne (pairs : List (κ × ν)) (key other : κ) :
    (pairs.filter (·.1 ≠ key)).lookup other =
      if key = other then none else pairs.lookup other := by
  induction pairs with
  | nil =>
      simp only [List.filter_nil, List.lookup_nil, ite_self]
  | cons pair pairs induction =>
      obtain ⟨name, value⟩ := pair
      by_cases own : name = key
      · rw [List.filter_cons_of_neg (by simp [own]), induction, own]
        split
        · rfl
        · rename_i differs
          rw [List.lookup_cons, beq_false_of_ne (Ne.symm differs)]
      · rw [List.filter_cons_of_pos (by simp [own]), List.lookup_cons,
          List.lookup_cons, induction]
        by_cases same : other = name
        · subst same
          simp [Ne.symm own]
        · rw [beq_false_of_ne same]

/-- Writes a value under a key which has none. -/
def setDefault (dict : Dictionary κ ν) (key : κ) (value : ν) :
    Dictionary κ ν :=
  if key ∈ dict then dict else dict.insert key value

theorem lookup_setDefault (dict : Dictionary κ ν) (key other : κ) (value : ν) :
    (dict.setDefault key value).lookup other =
      (dict.lookup other).or (if other = key then some value else none) := by
  rw [setDefault]
  by_cases same : other = key
  · rw [if_pos same, same]
    split
    · rename_i present
      obtain ⟨found, here⟩ :=
        Option.isSome_iff_exists.mp (AList.lookup_isSome.mpr present)
      rw [here, Option.some_or]
    · rename_i absent
      rw [AList.lookup_insert, AList.lookup_eq_none.mpr absent, Option.none_or]
  · rw [if_neg same, Option.or_none]
    split
    · rfl
    · exact AList.lookup_insert_ne same

/-- Fills up a dictionary from the defaults. -/
def fill (dict defaults : Dictionary κ ν) : Dictionary κ ν :=
  defaults.entries.foldl (fun dict entry => dict.setDefault entry.1 entry.2) dict

theorem lookup_foldl_setDefault (entries : List (Sigma fun _ : κ => ν))
    (dict : Dictionary κ ν) (key : κ) :
    (entries.foldl (fun dict entry => dict.setDefault entry.1 entry.2)
        dict).lookup key =
      (dict.lookup key).or (entries.dlookup key) := by
  induction entries generalizing dict with
  | nil => exact (Option.or_none).symm
  | cons entry entries induction =>
      rw [List.foldl_cons, induction, lookup_setDefault, Option.or_assoc]
      by_cases same : key = entry.1
      · rw [if_pos same, Option.some_or, same, List.dlookup_cons_eq]
      · rw [if_neg same, Option.none_or, List.dlookup_cons_ne _ _ same]

/-- Each key of the filled dictionary has its own value or its default. -/
theorem lookup_fill (dict defaults : Dictionary κ ν) (key : κ) :
    (dict.fill defaults).lookup key =
      (dict.lookup key).or (defaults.lookup key) :=
  lookup_foldl_setDefault defaults.entries dict key

end Dictionary

end Lib
