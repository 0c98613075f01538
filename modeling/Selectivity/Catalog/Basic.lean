import Selectivity.Entries

/-!
# Catalogues

A catalogue has relations under distinct names, in the order in which the names came in. What is
kept under a name is a parameter: the statistics themselves, or a reference to them.
-/

namespace Selectivity

/-- Relations under distinct names, in order. -/
structure Catalog (Base : Type) where
  entries : List (String × Base)
  /-- No name occurs twice. -/
  distinct : (Entries.names entries).Nodup

namespace Catalog

variable {Base Other : Type}

def empty : Catalog Base :=
  ⟨[], List.nodup_nil⟩

/-- Puts a relation under a name. A name that is there keeps its place and loses its relation. -/
def add (catalog : Catalog Base) (name : String) (base : Base) : Catalog Base :=
  ⟨Entries.put catalog.entries name base, Entries.nodup_names_put name base catalog.distinct⟩

/-- Adds relations one after the other to the empty catalogue. -/
def ofList (entries : List (String × Base)) : Catalog Base :=
  ⟨Entries.ofList entries, Entries.nodup_names_ofList entries⟩

def lookup? (catalog : Catalog Base) (name : String) : Option Base :=
  Entries.get? catalog.entries name

def names (catalog : Catalog Base) : List String :=
  Entries.names catalog.entries

def size (catalog : Catalog Base) : Nat :=
  catalog.entries.length

/-- The constructor form, with the names in order. -/
def expression (catalog : Catalog Base) : String :=
  "StatisticsCatalog(" ++ String.intercalate ", " catalog.names ++ ")"

/-- The catalogue with everything that it keeps replaced by its image. -/
def map (image : Base → Other) (catalog : Catalog Base) : Catalog Other where
  entries := catalog.entries.map fun (name, base) => (name, image base)
  distinct := by
    have same : Entries.names (catalog.entries.map fun (name, base) => (name, image base)) =
        Entries.names catalog.entries := by
      rw [Entries.names, List.map_map]
      rfl
    rw [same]
    exact catalog.distinct

end Catalog

end Selectivity
