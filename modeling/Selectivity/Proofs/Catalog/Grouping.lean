import Mathlib.Data.List.Forall2
import Selectivity.Catalog.Rows

/-!
# Relations from rows

Each row of a catalogue tells the name and the size of a relation and at most one of its attributes.
Rows are grouped by name: there is one relation for each name, in the order in which the names first
occur. The first of its rows tells the size, and its attributes come in the order of the rows.
-/

namespace Selectivity

/-- What one row of a catalogue tells. -/
structure Listing where
  relation : String
  tupleCount : Nat
  /-- The attribute, if the relation has any. -/
  column : Option Attribute

namespace Listing

/-- The relation that the rows of one name describe. -/
def described (listings : List Listing) : Relation where
  tupleCount := (listings.head?.map tupleCount).getD 0
  attributes := listings.filterMap column

/-- The relations that rows describe, in the order in which their names first occur. -/
def grouped (listings : List Listing) : List (String × Relation) :=
  (listings.map relation).eraseDups.map fun name =>
    (name, described (listings.filter fun listing => listing.relation == name))

end Listing

namespace Relation

/-- The attributes in the rows of a relation: a relation without attributes has one row. -/
def slots (relation : Relation) : List (Option Attribute) :=
  if relation.attributes.isEmpty then [none] else relation.attributes.map some

/-- The rows of a relation, given its name. -/
def listings (relation : Relation) (name : String) : List Listing :=
  relation.slots.map fun column => ⟨name, relation.tupleCount, column⟩

end Relation

def Catalog.listings (catalog : Catalog Relation) : List Listing :=
  catalog.entries.flatMap fun entry => entry.2.listings entry.1

/-- The entries of a row can be read, and they are what is listed. -/
structure CatalogRow.Tells (row : CatalogRow) (listing : Listing) : Prop where
  relation : row.relation = .text listing.relation
  tuples : row.tupleCount = .ok listing.tupleCount
  column : row.attribute? = .ok listing.column

section Groups

variable {Item : Type} (name : Item → String)

/-- Items by their names, in the order in which the names first occur. -/
def groups (items : List Item) : List (String × List Item) :=
  (items.map name).eraseDups.map fun own => (own, items.filter fun item => name item == own)

/-- The items of the first name make the first group, and the items of other names the others. -/
theorem groups_cons (first : Item) (rest : List Item) :
    groups name (first :: rest) =
      (name first, first :: rest.filter fun item => name item == name first) ::
        groups name (rest.filter fun item => name item != name first) := by
  have names : (rest.map name).filter (fun own => !own == name first) =
      (rest.filter fun item => name item != name first).map name :=
    List.filter_map
  have own : (first :: rest).filter (fun item => name item == name first) =
      first :: rest.filter fun item => name item == name first :=
    List.filter_cons_of_pos (beq_self_eq_true (name first))
  rw [groups, List.map_cons, List.eraseDups_cons, names, List.map_cons, own, groups]
  refine congrArg (List.cons _) (List.map_congr_left fun called later => ?_)
  -- the later names are others, so no item of theirs has been left out
  rw [List.mem_eraseDups] at later
  obtain ⟨item, kept, rfl⟩ := List.mem_map.mp later
  have other := (List.mem_filter.mp kept).2
  have absent : (name first == name item) = false := by
    rw [beq_eq_false_iff_ne]
    exact (bne_iff_ne.mp other).symm
  rw [List.filter_cons, absent, if_neg Bool.false_ne_true, List.filter_filter]
  refine congrArg (Prod.mk (name item)) (List.filter_congr ?_)
  intro another _
  cases same : name another == name item with
  | false => rfl
  | true =>
      rw [beq_iff_eq] at same
      rw [same, other]
      rfl

theorem groups_names (items : List Item) :
    (groups name items).map Prod.fst = (items.map name).eraseDups := by
  rw [groups, List.map_map]
  exact List.map_id _

end Groups

namespace Listing

theorem grouped_eq (listings : List Listing) :
    grouped listings =
      (groups relation listings).map fun group => (group.1, described group.2) := by
  rw [grouped, groups, List.map_map]
  rfl

theorem grouped_cons (first : Listing) (rest : List Listing) :
    grouped (first :: rest) =
      (first.relation,
        described (first :: rest.filter fun listing => listing.relation == first.relation)) ::
        grouped (rest.filter fun listing => listing.relation != first.relation) := by
  rw [grouped_eq, groups_cons, List.map_cons, grouped_eq]

theorem grouped_flatMap {Item : Type} {name : Item → String} {rows : Item → List Listing}
    {items : List Item} (distinct : (items.map name).Nodup)
    (nonempty : ∀ item ∈ items, rows item ≠ [])
    (own : ∀ item ∈ items, ∀ listing ∈ rows item, listing.relation = name item) :
    grouped (items.flatMap rows) = items.map fun item => (name item, described (rows item)) := by
  induction items with
  | nil => rfl
  | cons item rest induction =>
      rw [List.map_cons, List.nodup_cons] at distinct
      obtain ⟨here, later⟩ := List.forall_mem_cons.mp own
      obtain ⟨first, more, split⟩ :=
        List.exists_cons_of_ne_nil (nonempty item List.mem_cons_self)
      have others := induction distinct.2
        (fun other member => nonempty other (List.mem_cons_of_mem _ member)) later
      rw [split] at here
      obtain ⟨called, alike⟩ := List.forall_mem_cons.mp here
      have apart : ∀ listing ∈ rest.flatMap rows, listing.relation ≠ name item := by
        intro listing member same
        obtain ⟨other, within, inside⟩ := List.mem_flatMap.mp member
        have shared := (later other within listing inside).symm.trans same
        exact distinct.1 (List.mem_map.mpr ⟨other, within, shared⟩)
      have taken : ((more ++ rest.flatMap rows).filter fun listing =>
          listing.relation == first.relation) = more := by
        rw [List.filter_append, List.filter_eq_self.mpr, List.filter_eq_nil_iff.mpr,
          List.append_nil]
        · exact fun listing member same => apart listing member ((beq_iff_eq.mp same).trans called)
        · exact fun listing member => beq_iff_eq.mpr ((alike listing member).trans called.symm)
      have left : ((more ++ rest.flatMap rows).filter fun listing =>
          listing.relation != first.relation) = rest.flatMap rows := by
        rw [List.filter_append, List.filter_eq_nil_iff.mpr, List.filter_eq_self.mpr,
          List.nil_append]
        · exact fun listing member =>
            bne_iff_ne.mpr fun same => apart listing member (same.trans called)
        · exact fun listing member other =>
            bne_iff_ne.mp other ((alike listing member).trans called.symm)
      rw [List.flatMap_cons, split, List.cons_append, grouped_cons, taken, left, others, called,
        List.map_cons, split]

end Listing

namespace Relation

theorem slots_ne_nil (relation : Relation) : relation.slots ≠ [] := by
  rw [slots]
  split
  · exact List.cons_ne_nil _ _
  · next nonempty =>
      rw [List.isEmpty_iff] at nonempty
      exact fun empty => nonempty (List.map_eq_nil_iff.mp empty)

theorem mem_of_mem_slots {relation : Relation} {column : Attribute}
    (member : some column ∈ relation.slots) : column ∈ relation.attributes := by
  rw [slots] at member
  split at member
  · exact absurd (List.mem_singleton.mp member) nofun
  · obtain ⟨other, within, same⟩ := List.mem_map.mp member
    exact Option.some.inj same ▸ within

theorem listings_ne_nil (relation : Relation) (name : String) : relation.listings name ≠ [] :=
  fun empty => relation.slots_ne_nil (List.map_eq_nil_iff.mp empty)

theorem relation_of_mem_listings {relation : Relation} {name : String} {listing : Listing}
    (member : listing ∈ relation.listings name) : listing.relation = name := by
  obtain ⟨column, -, rfl⟩ := List.mem_map.mp member
  rfl

theorem filterMap_slots (relation : Relation) :
    relation.slots.filterMap id = relation.attributes := by
  rw [slots]
  split
  · next empty => exact (List.isEmpty_iff.mp empty).symm
  · rw [List.filterMap_map]
    exact List.filterMap_some

theorem described_listings (relation : Relation) (name : String) :
    Listing.described (relation.listings name) = relation := by
  have attributes : (relation.listings name).filterMap Listing.column = relation.attributes := by
    rw [listings, List.filterMap_map]
    exact relation.filterMap_slots
  obtain ⟨first, more, split⟩ := List.exists_cons_of_ne_nil (relation.listings_ne_nil name)
  have size : first.tupleCount = relation.tupleCount := by
    obtain ⟨column, -, rfl⟩ := List.mem_map.mp (split ▸ List.mem_cons_self)
    rfl
  rw [Listing.described, attributes, split, List.head?_cons, Option.map_some, size]
  rfl

end Relation

theorem Catalog.grouped_listings (catalog : Catalog Relation) :
    Listing.grouped catalog.listings = catalog.entries := by
  rw [listings, Listing.grouped_flatMap catalog.distinct
    (fun entry _ => entry.2.listings_ne_nil entry.1)
    fun entry _ _ member => Relation.relation_of_mem_listings member]
  refine (List.map_congr_left fun entry _ => ?_).trans (List.map_id catalog.entries)
  exact congrArg (Prod.mk entry.1) (entry.2.described_listings entry.1)

namespace CatalogRow

variable {row first : CatalogRow} {listing : Listing} {rows : List CatalogRow}
  {listings : List Listing}

section Calls

variable {Item : Type} {Says : CatalogRow → Item → Prop} {name : Item → String} {items : List Item}

theorem text_of_calls (calls : ∀ row item, Says row item → row.relation = .text (name item))
    (said : List.Forall₂ Says rows items) : ∀ row ∈ rows, ∃ text, row.relation = .text text := by
  induction said with
  | nil => exact List.forall_mem_nil _
  | cons here _ induction => exact List.forall_mem_cons.mpr ⟨⟨_, calls _ _ here⟩, induction⟩

theorem key_beq_of_text {called other : String} (here : first.relation = .text called)
    (there : row.relation = .text other) :
    (row.relation.key == first.relation.key) = (other == called) := by
  rw [here, there, Bool.eq_iff_iff, beq_iff_eq, beq_iff_eq]
  exact Cell.text.injEq _ _ ▸ Iff.rfl

theorem forall₂_about {called : String} (here : first.relation = .text called)
    (calls : ∀ row item, Says row item → row.relation = .text (name item))
    (said : List.Forall₂ Says rows items) :
    List.Forall₂ Says (about first.relation rows) (items.filter fun item => name item == called) :=
  List.rel_filter (fun row item tells =>
    Bool.eq_iff_iff.mp (key_beq_of_text here (calls row item tells))) said

theorem forall₂_aboutOthers {called : String} (here : first.relation = .text called)
    (calls : ∀ row item, Says row item → row.relation = .text (name item))
    (said : List.Forall₂ Says rows items) :
    List.Forall₂ Says (aboutOthers first.relation rows)
      (items.filter fun item => name item != called) :=
  List.rel_filter (fun row item tells =>
    Bool.eq_iff_iff.mp (congrArg Bool.not (key_beq_of_text here (calls row item tells)))) said

end Calls

theorem attribute?_of_misses {cell : Cell} (found : row.column = .ok cell)
    (misses : cell.misses? = some true) : row.attribute? = .ok none := by
  simp only [attribute?, found, misses]

/-- A row with a text and a positive count gives the attribute of that name and count. -/
theorem attribute?_of_text {text : String} {count : Nat} (plain : row.word = none)
    (found : row.column = .ok (.text text)) (counted : row.values.count = .ok (count : Int))
    (positive : 0 < count) : row.attribute? = .ok (some ⟨text, count, positive⟩) := by
  have made : Attribute.ofCount text (count : Int) = .ok ⟨text, count, positive⟩ :=
    dif_pos (show (1 : Int) ≤ count by omega)
  simp only [attribute?, found, counted, plain, Cell.misses?, Cell.isMissing]
  exact congrArg (fun found => (found.mapError CatalogFault.statistic).map some) made

theorem tupleCount_of_count {count : Nat} (counted : row.tuples.count = .ok (count : Int)) :
    row.tupleCount = .ok count := by
  rw [tupleCount, counted]
  exact congrArg (Except.mapError CatalogFault.statistic) (if_pos (Int.natCast_nonneg count))

theorem attributes_of_tells (told : List.Forall₂ Tells rows listings) :
    attributes rows = .ok (listings.filterMap Listing.column) := by
  induction told with
  | nil => rfl
  | @cons row listing _ _ here _ induction =>
      rw [attributes, here.column, induction, List.filterMap_cons]
      cases listing.column <;> rfl

theorem relationOf_of_tells (here : first.Tells listing)
    (told : List.Forall₂ Tells rows listings) :
    relationOf first rows = .ok (Listing.described (listing :: listings)) := by
  rw [relationOf, here.tuples, attributes_of_tells (.cons here told)]
  rfl

theorem relations_of_tells {rows : List CatalogRow} {listings : List Listing}
    (told : List.Forall₂ Tells rows listings) :
    relations rows = .ok (Listing.grouped listings) := by
  match told with
  | .nil =>
      rw [relations]
      rfl
  | @List.Forall₂.cons _ _ _ first listing rest others here later =>
      have own := forall₂_about here.relation (fun _ _ tells => tells.relation) later
      have apart := forall₂_aboutOthers here.relation (fun _ _ tells => tells.relation) later
      have last := relations_of_tells apart
      rw [relations, relationOf_of_tells here own, last, here.relation, Listing.grouped_cons]
      rfl
termination_by rows.length
decreasing_by
  exact Nat.lt_succ_of_le (length_aboutOthers_le first.relation rest)

end CatalogRow

namespace Catalog

theorem ofRows_of_texts {rows : List CatalogRow}
    (text : ∀ row ∈ rows, ∃ name, row.relation = .text name) :
    ofRows rows = (CatalogRow.relations rows).map ofList := by
  have plain : (rows.any fun row => row.relation.isCompound) = false := by
    refine List.any_eq_false.mpr fun row member => ?_
    obtain ⟨name, called⟩ := text row member
    rw [called]
    exact Bool.false_ne_true
  have named : (rows.filter fun row => !row.relation.isMissing) = rows := by
    refine List.filter_eq_self.mpr fun row member => ?_
    obtain ⟨name, called⟩ := text row member
    rw [called]
    rfl
  rw [ofRows, plain, if_neg Bool.false_ne_true, named]

/-- Rows that can be read make the catalogue of the relations that they are grouped to. -/
theorem ofRows_of_tells {rows : List CatalogRow} {listings : List Listing}
    (told : List.Forall₂ CatalogRow.Tells rows listings) :
    ofRows rows = .ok (ofList (Listing.grouped listings)) := by
  rw [ofRows_of_texts (CatalogRow.text_of_calls (fun _ _ tells => tells.relation) told),
    CatalogRow.relations_of_tells told]
  rfl

end Catalog

end Selectivity
