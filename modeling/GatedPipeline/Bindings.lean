namespace GatedPipeline

/-- Finite maps: a name is written once, and the names ascend. -/
abbrev Bindings (α : Type u) := List (String × α)

namespace Bindings

variable {α : Type u}

def get? (name : String) : Bindings α → Option α
  | [] => none
  | (n, v) :: rest => if n = name then some v else get? name rest

/-- Binds a name, in place of what it was bound to. -/
def insert (name : String) (value : α) : Bindings α → Bindings α
  | [] => [(name, value)]
  | (n, v) :: rest =>
    if name = n then (name, value) :: rest
    else if name < n then (name, value) :: (n, v) :: rest
    else (n, v) :: insert name value rest

def erase (name : String) : Bindings α → Bindings α
  | [] => []
  | (n, v) :: rest => if n = name then erase name rest else (n, v) :: erase name rest

/-- Binds the names of the list one after another: of equal names the last one stays. -/
def insertAll (m : Bindings α) (pairs : List (String × α)) : Bindings α :=
  pairs.foldl (fun m p => insert p.1 p.2 m) m

def ofList (pairs : List (String × α)) : Bindings α := insertAll [] pairs

def names (m : Bindings α) : List String := m.map Prod.fst

theorem get?_insert_self (name : String) (value : α) (m : Bindings α) :
    get? name (insert name value m) = some value := by
  induction m with
  | nil => simp [insert, get?]
  | cons p rest ih =>
    obtain ⟨n, v⟩ := p
    by_cases h : name = n
    · simp [insert, get?, h]
    · by_cases hl : name < n
      · simp [insert, get?, h, hl]
      · simp [insert, get?, h, hl, Ne.symm h, ih]

theorem get?_insert_of_ne {name other : String} (h : other ≠ name) (value : α) (m : Bindings α) :
    get? other (insert name value m) = get? other m := by
  induction m with
  | nil => simp [insert, get?, Ne.symm h]
  | cons p rest ih =>
    obtain ⟨n, v⟩ := p
    by_cases hn : name = n
    · subst hn; simp [insert, get?, Ne.symm h]
    · by_cases hl : name < n
      · simp [insert, get?, hn, hl, Ne.symm h]
      · simp [insert, get?, hn, hl, ih]

theorem get?_append (name : String) (m m' : Bindings α) :
    get? name (m ++ m') = (get? name m).or (get? name m') := by
  induction m with
  | nil => rfl
  | cons p rest ih =>
    obtain ⟨n, v⟩ := p
    by_cases h : n = name
    · simp [get?, h]
    · simp [get?, h, ih]

/-- Names that are bound one after another: the last binding counts. -/
theorem get?_insertAll (name : String) (m : Bindings α) (pairs : List (String × α)) :
    get? name (m.insertAll pairs) = (get? name pairs.reverse).or (get? name m) := by
  induction pairs generalizing m with
  | nil => rfl
  | cons p rest ih =>
    obtain ⟨n, v⟩ := p
    have hrest := ih (m.insert n v)
    rw [List.reverse_cons, get?_append, Option.or_assoc]
    refine hrest.trans (congrArg _ ?_)
    by_cases h : n = name
    · subst h
      simp [get?_insert_self, get?]
    · simp [get?_insert_of_ne (Ne.symm h), get?, h]

theorem get?_ofList (name : String) (pairs : List (String × α)) :
    get? name (ofList pairs) = get? name pairs.reverse := by
  rw [ofList, get?_insertAll, get?, Option.or_none]

theorem insertAll_nil (m : Bindings α) : m.insertAll [] = m := rfl

/-- Names are written once, and they ascend. -/
def Ascending (m : Bindings α) : Prop := m.names.Pairwise (· < ·)

theorem ascending_nil : Ascending ([] : Bindings α) := List.Pairwise.nil

theorem mem_names_insert (name : String) (value : α) (m : Bindings α) (n : String) :
    n ∈ (insert name value m).names ↔ n = name ∨ n ∈ m.names := by
  induction m with
  | nil => simp [insert, names]
  | cons p rest ih =>
    obtain ⟨k, v⟩ := p
    simp only [names, List.map_cons, List.mem_cons] at ih ⊢
    unfold insert
    split
    · rename_i h
      subst h
      simp
    · split
      · simp
      · simp only [List.map_cons, List.mem_cons, ih, or_left_comm]

theorem Ascending.insert {m : Bindings α} (h : m.Ascending) (name : String) (value : α) :
    (Bindings.insert name value m).Ascending := by
  induction m with
  | nil => exact List.pairwise_singleton _ _
  | cons p rest ih =>
    obtain ⟨k, v⟩ := p
    obtain ⟨hk, hrest⟩ := List.pairwise_cons.mp h
    unfold Bindings.insert
    split
    · rename_i he
      subst he
      exact h
    · rename_i hne
      split
      · rename_i hlt
        refine List.pairwise_cons.mpr ⟨fun n hn => ?_, h⟩
        rcases List.mem_cons.mp hn with rfl | hn
        · exact hlt
        · exact String.lt_trans hlt (hk n hn)
      · rename_i hlt
        have hgt : k < name := by
          refine String.not_le.mp fun hle => hne ?_
          exact String.le_antisymm hle (String.not_lt.mp hlt)
        refine List.pairwise_cons.mpr ⟨fun n hn => ?_, ih hrest⟩
        rcases (mem_names_insert name value rest n).mp hn with rfl | hn
        · exact hgt
        · exact hk n hn

theorem Ascending.insertAll {m : Bindings α} (h : m.Ascending) (pairs : List (String × α)) :
    (m.insertAll pairs).Ascending := by
  induction pairs generalizing m with
  | nil => exact h
  | cons p pairs ih => exact ih (h.insert p.1 p.2)

theorem ascending_ofList (pairs : List (String × α)) : (ofList pairs).Ascending :=
  ascending_nil.insertAll pairs

theorem isSome_get?_iff (name : String) (m : Bindings α) :
    (get? name m).isSome = true ↔ name ∈ m.names := by
  induction m with
  | nil => simp [get?, names]
  | cons p rest ih =>
    obtain ⟨k, v⟩ := p
    simp only [names, List.map_cons, List.mem_cons] at ih ⊢
    unfold get?
    split
    · rename_i h
      simp [h]
    · rename_i h
      simp [ih, Ne.symm h]

theorem mem_of_get? {name : String} {value : α} {m : Bindings α} (h : get? name m = some value) :
    (name, value) ∈ m := by
  induction m with
  | nil => cases h
  | cons p rest ih =>
    obtain ⟨k, v⟩ := p
    unfold get? at h
    split at h
    · rename_i hk
      cases h
      rw [hk]
      exact List.mem_cons_self
    · exact List.mem_cons_of_mem _ (ih h)

theorem get?_eq_none_iff {name : String} {m : Bindings α} :
    get? name m = none ↔ name ∉ m.names := by
  rw [← isSome_get?_iff, Option.not_isSome_iff_eq_none]

/-- Where every name is bound once, the order of the pairs does not matter. -/
theorem get?_eq_some_iff_mem {m : Bindings α} (h : m.names.Nodup) {name : String} {value : α} :
    get? name m = some value ↔ (name, value) ∈ m := by
  refine ⟨mem_of_get?, fun hmem => ?_⟩
  induction m with
  | nil => cases hmem
  | cons p rest ih =>
    obtain ⟨n, v⟩ := p
    obtain ⟨hn, hrest⟩ := List.nodup_cons.mp h
    unfold get?
    rcases List.mem_cons.mp hmem with he | hmem
    · cases he
      exact if_pos rfl
    · have hne : n ≠ name := by
        rintro rfl
        exact hn (List.mem_map.mpr ⟨_, hmem, rfl⟩)
      rw [if_neg hne]
      exact ih hrest hmem

theorem get?_perm {m m' : Bindings α} (h : m.names.Nodup) (hp : m.Perm m') (name : String) :
    get? name m = get? name m' := by
  have h' : m'.names.Nodup := (hp.map Prod.fst).nodup_iff.mp h
  refine Option.ext fun value => ?_
  rw [get?_eq_some_iff_mem h, get?_eq_some_iff_mem h', hp.mem_iff]

theorem get?_reverse {m : Bindings α} (h : m.names.Nodup) (name : String) :
    get? name m.reverse = get? name m :=
  (get?_perm h m.reverse_perm.symm name).symm

theorem get?_insertAll_of_nodup {m : Bindings α} (h : m.names.Nodup) (name : String)
    (base : Bindings α) : get? name (base.insertAll m) = (get? name m).or (get? name base) := by
  rw [get?_insertAll, get?_reverse h]

theorem get?_mapValues {β : Type v} (f : α → β) (name : String) (m : Bindings α) :
    get? name (m.map fun p => (p.1, f p.2)) = (get? name m).map f := by
  induction m with
  | nil => rfl
  | cons p rest ih =>
    obtain ⟨n, v⟩ := p
    by_cases h : n = name
    · simp [get?, h]
    · simp [get?, h, ih]

theorem names_mapValues {β : Type v} (f : α → β) (m : Bindings α) :
    names (m.map fun p => (p.1, f p.2)) = m.names := by
  rw [names, List.map_map]
  rfl

theorem Ascending.nodup {m : Bindings α} (h : m.Ascending) : m.names.Nodup :=
  h.imp String.ne_of_lt

/-- What stands in the list is what is found: no name is there twice. -/
theorem Ascending.get?_of_mem {m : Bindings α} (h : m.Ascending) {p : String × α} (hp : p ∈ m) :
    get? p.1 m = some p.2 := (get?_eq_some_iff_mem h.nodup).mpr hp

end Bindings

end GatedPipeline
