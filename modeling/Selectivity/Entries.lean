/-!
# Named entries in order

A list of names with values, each name at most once. Putting a value under a name that is already
there replaces the value and keeps the place; a new name goes to the end.
-/

namespace Selectivity.Entries

def put {α : Type} (entries : List (String × α)) (name : String) (value : α) :
    List (String × α) :=
  match entries with
  | [] => [(name, value)]
  | (present, old) :: rest =>
      if present = name then (name, value) :: rest
      else (present, old) :: put rest name value

def get? {α : Type} (entries : List (String × α)) (name : String) : Option α :=
  match entries with
  | [] => none
  | (present, value) :: rest => if present = name then some value else get? rest name

def names {α : Type} (entries : List (String × α)) : List String :=
  entries.map Prod.fst

/-- Puts several values under their names, one after the other. -/
def ofList {α : Type} (values : List (String × α)) : List (String × α) :=
  values.foldl (fun entries entry => put entries entry.1 entry.2) []

theorem mem_names_put {α : Type} {entries : List (String × α)} {name other : String}
    {value : α} (member : other ∈ names (put entries name value)) :
    other = name ∨ other ∈ names entries := by
  induction entries with
  | nil =>
      rw [put, names, List.map_singleton, List.mem_singleton] at member
      exact Or.inl member
  | cons entry rest induction =>
      obtain ⟨present, old⟩ := entry
      rw [put] at member
      split at member
      · next here =>
          subst here
          exact Or.inr member
      · rw [names, List.map_cons, List.mem_cons] at member ⊢
        rcases member with here | later
        · exact Or.inr (Or.inl here)
        · exact (induction later).imp_right Or.inr

theorem nodup_names_put {α : Type} {entries : List (String × α)} (name : String) (value : α)
    (distinct : (names entries).Nodup) : (names (put entries name value)).Nodup := by
  induction entries with
  | nil => exact List.nodup_cons.mpr ⟨List.not_mem_nil, List.nodup_nil⟩
  | cons entry rest induction =>
      obtain ⟨present, old⟩ := entry
      rw [names, List.map_cons, List.nodup_cons] at distinct
      rw [put]
      split
      · next here =>
          subst here
          exact List.nodup_cons.mpr distinct
      · next different =>
          refine List.nodup_cons.mpr ⟨fun member => ?_, induction distinct.2⟩
          rcases mem_names_put member with same | later
          · exact different same
          · exact distinct.1 later

theorem nodup_names_foldl_put {α : Type} (values : List (String × α))
    {entries : List (String × α)} (distinct : (names entries).Nodup) :
    (names (values.foldl (fun entries entry => put entries entry.1 entry.2) entries)).Nodup := by
  induction values generalizing entries with
  | nil => exact distinct
  | cons value rest induction => exact induction (nodup_names_put _ _ distinct)

theorem nodup_names_ofList {α : Type} (values : List (String × α)) :
    (names (ofList values)).Nodup :=
  nodup_names_foldl_put values List.nodup_nil

theorem mem_put {α : Type} {entries : List (String × α)} {name : String} {value : α}
    {entry : String × α} (member : entry ∈ put entries name value) :
    entry = (name, value) ∨ entry ∈ entries := by
  induction entries with
  | nil => exact Or.inl (List.mem_singleton.mp member)
  | cons first rest induction =>
      obtain ⟨present, old⟩ := first
      rw [put] at member
      split at member
      · exact (List.mem_cons.mp member).imp_right (List.mem_cons_of_mem _)
      · rcases List.mem_cons.mp member with here | later
        · exact Or.inr (List.mem_cons.mpr (Or.inl here))
        · exact (induction later).imp_right (List.mem_cons_of_mem _)

theorem mem_foldl_put {α : Type} (values : List (String × α)) {entries : List (String × α)}
    {entry : String × α}
    (member : entry ∈ values.foldl (fun entries entry => put entries entry.1 entry.2) entries) :
    entry ∈ values ∨ entry ∈ entries := by
  induction values generalizing entries with
  | nil => exact Or.inr member
  | cons value rest induction =>
      rcases induction member with later | before
      · exact Or.inl (List.mem_cons_of_mem _ later)
      · exact (mem_put before).imp_left fun same => List.mem_cons.mpr (Or.inl same)

theorem mem_of_mem_ofList {α : Type} {values : List (String × α)} {entry : String × α}
    (member : entry ∈ ofList values) : entry ∈ values :=
  (mem_foldl_put values member).resolve_right List.not_mem_nil

theorem get?_eq_some_mem {α : Type} {entries : List (String × α)} {name : String} {value : α}
    (found : get? entries name = some value) : (name, value) ∈ entries := by
  induction entries with
  | nil => cases found
  | cons first rest induction =>
      obtain ⟨present, old⟩ := first
      rw [get?] at found
      split at found
      · next here =>
          cases here
          cases found
          exact List.mem_cons_self
      · exact List.mem_cons_of_mem _ (induction found)

/-- An entry of a list of entries with distinct names is found under its name. -/
theorem get?_eq_some_of_mem {α : Type} {entries : List (String × α)}
    {entry : String × α} (distinct : (names entries).Nodup) (member : entry ∈ entries) :
    get? entries entry.1 = some entry.2 := by
  induction entries with
  | nil => cases member
  | cons first rest induction =>
      obtain ⟨present, value⟩ := first
      rw [names, List.map_cons, List.nodup_cons] at distinct
      rcases List.mem_cons.mp member with rfl | later
      · simp [get?]
      · have other : present ≠ entry.1 := by
          rintro rfl
          exact distinct.1 (List.mem_map.mpr ⟨entry, later, rfl⟩)
        rw [get?, if_neg other]
        exact induction distinct.2 later

theorem exists_get?_eq_some {α : Type} {entries : List (String × α)} {name : String}
    (member : name ∈ names entries) : ∃ value, get? entries name = some value := by
  induction entries with
  | nil => cases member
  | cons first rest induction =>
      obtain ⟨present, value⟩ := first
      rw [get?]
      split
      · exact ⟨value, rfl⟩
      · next other =>
          rw [names, List.map_cons, List.mem_cons] at member
          exact induction (member.resolve_left (Ne.symm other))

theorem put_of_not_mem {α : Type} {entries : List (String × α)} {name : String} (value : α)
    (absent : name ∉ names entries) : put entries name value = entries ++ [(name, value)] := by
  induction entries with
  | nil => rfl
  | cons first rest induction =>
      obtain ⟨present, old⟩ := first
      rw [names, List.map_cons, List.mem_cons, not_or] at absent
      rw [put, if_neg (Ne.symm absent.1), induction absent.2, List.cons_append]

theorem foldl_put_of_distinct {α : Type} {values entries : List (String × α)}
    (distinct : (names (entries ++ values)).Nodup) :
    values.foldl (fun entries entry => put entries entry.1 entry.2) entries =
      entries ++ values := by
  induction values generalizing entries with
  | nil => rw [List.foldl_nil, List.append_nil]
  | cons value rest induction =>
      have absent : value.1 ∉ names entries := by
        rw [names, List.map_append, List.map_cons, List.nodup_append] at distinct
        exact fun member => distinct.2.2 value.1 member value.1 List.mem_cons_self rfl
      rw [List.append_cons] at distinct
      rw [List.foldl_cons, put_of_not_mem value.2 absent, induction distinct, List.append_assoc,
        List.singleton_append]

theorem ofList_of_distinct {α : Type} {values : List (String × α)}
    (distinct : (names values).Nodup) : ofList values = values :=
  foldl_put_of_distinct distinct

theorem nodup_eraseDups {α : Type} [BEq α] [LawfulBEq α] (items : List α) :
    items.eraseDups.Nodup := by
  match items with
  | [] => exact List.nodup_nil
  | item :: rest =>
      rw [List.eraseDups_cons]
      refine List.nodup_cons.mpr ⟨fun member => ?_, nodup_eraseDups _⟩
      have kept := (List.mem_filter.mp (List.mem_eraseDups.mp member)).2
      rw [beq_self_eq_true] at kept
      cases kept
termination_by items.length
decreasing_by
  exact Nat.lt_succ_of_le (List.length_filter_le _ rest)

end Selectivity.Entries
