import Selectivity.Proofs.Estimation.Correspondence

/-!
# Renaming of attributes

An injective renaming of texts renames the attributes of relations, the names in conditions and the
names that projections keep. Two names are equal after it exactly if they were before, so every
look-up finds the attribute that it found, every recount touches the attributes that it touched, and
every rule puts out the renamed relation. The names of scans and the literals of conditions are not
asked for at all, so that they can be replaced by any others.
-/

namespace Selectivity

section Renamed

variable (image : String → String)

/-- The renamed label: a text is renamed, and what else a column is called stays. -/
def Label.rename (label : Label) : Label :=
  match label with
  | ⟨.string text, none⟩ => image text
  | other => other

def Attribute.rename (column : Attribute) : Attribute :=
  { column with name := column.name.rename image }

def Relation.rename (relation : Relation) : Relation :=
  ⟨relation.tupleCount, relation.attributes.map (Attribute.rename image)⟩

def Comparison.rename (condition : Comparison) : Comparison :=
  ⟨image condition.left, image condition.right⟩

/-- The second operator is the first one with all attributes renamed, and perhaps with another name
of its scan or another literal. -/
inductive Operator.Renamed : Operator Relation → Operator Relation → Prop where
  | scan (name other : String) (base : Relation) :
      Renamed (.scan name base) (.scan other (base.rename image))
  | project (kept : List String) : Renamed (.project kept) (.project (kept.map image))
  | selectValue (column value other : String) :
      Renamed (.select (some (.equalsValue column value)))
        (.select (some (.equalsValue (image column) other)))
  | selectEqual (condition : Comparison) :
      Renamed (.select (some (.equalsAttribute condition)))
        (.select (some (.equalsAttribute (condition.rename image))))
  | product : Renamed .product .product
  | join (condition : Comparison) : Renamed (.join condition) (.join (condition.rename image))

/-- The second fault is the first one with all attributes renamed: those that are missing, and
those of the relations that were searched. -/
inductive EstimateFault.Renamed : EstimateFault → EstimateFault → Prop where
  | missing (attributes : List String) (relations : List Relation) :
      Renamed (.missingAttribute ⟨attributes, relations.map Relation.render⟩)
        (.missingAttribute ⟨attributes.map image,
          (relations.map (Relation.rename image)).map Relation.render⟩)
  | unknownOperator (kind : String) : Renamed (.unknownOperator kind) (.unknownOperator kind)
  | compoundName : Renamed .compoundName .compoundName
  | unwritable : Renamed .unwritable .unwritable

end Renamed

variable {image : String → String}

theorem Label.rename_cases (label : Label) :
    (∃ text : String, label = text ∧ label.rename image = (image text : Label)) ∨
      (∀ text : String, label ≠ text) ∧ label.rename image = label := by
  obtain ⟨value, word⟩ := label
  cases value with
  | string text =>
      cases word with
      | none => exact Or.inl ⟨text, rfl, rfl⟩
      | some kind => exact Or.inr ⟨nofun, rfl⟩
  | _ => exact Or.inr ⟨nofun, rfl⟩

theorem Label.rename_injective (injective : Function.Injective image) :
    Function.Injective (Label.rename image) := by
  intro first second same
  rcases first.rename_cases with ⟨text, rfl, here⟩ | ⟨other, here⟩ <;>
    rcases second.rename_cases with ⟨further, rfl, there⟩ | ⟨another, there⟩ <;>
    rw [here, there] at same
  · rw [injective (Label.ofText_inj.mp same)]
  · exact absurd same.symm (another _)
  · exact absurd same (other _)
  · exact same

theorem Label.isCompound_rename (label : Label) :
    (label.rename image).isCompound = label.isCompound := by
  rcases label.rename_cases with ⟨text, rfl, same⟩ | ⟨-, same⟩
  · rfl
  · rw [same]

theorem Relation.hasCompoundName_rename (relation : Relation) :
    (relation.rename image).hasCompoundName = relation.hasCompoundName := by
  rw [hasCompoundName, hasCompoundName, rename, List.any_map]
  exact congrArg _ (funext fun column => column.name.isCompound_rename)

theorem Relation.isWritable_rename (relation : Relation) :
    (relation.rename image).isWritable = relation.isWritable := by
  simp only [isWritable, rename, List.all_map, Function.comp_def, Attribute.rename]

/-- A relation can be told exactly if the renamed one can, and so can the fault that attributes are
missing. -/
theorem EstimateFault.renamed_missing (attributes : List String) (relations : List Relation) :
    EstimateFault.Renamed image (.missing attributes relations)
      (.missing (attributes.map image) (relations.map (Relation.rename image))) := by
  have writable : (relations.map (Relation.rename image)).all Relation.isWritable =
      relations.all Relation.isWritable := by
    rw [List.all_map]
    exact congrArg _ (funext Relation.isWritable_rename)
  rw [missing_eq, missing_eq, writable]
  split
  · exact .missing attributes relations
  · exact .unwritable

/-- Both answers are faults, the second one with all attributes renamed, or the second one is the
renamed relation. -/
abbrev RenamedAnswer (image : String → String) :
    Except EstimateFault Relation → Except EstimateFault Relation → Prop :=
  Matching (EstimateFault.Renamed image) fun relation other => relation.rename image = other

theorem Relation.product_rename (inputs : List Relation) :
    product (inputs.map (Relation.rename image)) = (product inputs).rename image := by
  rw [product, product, rename, List.foldr_map, List.flatMap_map, List.map_flatMap]
  rfl

section Injective

variable (injective : Function.Injective image)

include injective

/-- A renamed attribute has a renamed name exactly if the attribute has the name. -/
theorem called_rename (name : String) :
    (fun column : Attribute => column.name == (image name : Label)) ∘ Attribute.rename image =
      fun column => column.name == (name : Label) := by
  funext column
  have same : (column.name.rename image == Label.rename image name) = (column.name == name) :=
    (Label.rename_injective injective).beq_eq
  exact same

theorem overwriteCounts_rename (names : List Label) (count : Nat) (positive : 0 < count)
    (columns : List Attribute) :
    overwriteCounts (names.map (Label.rename image)) count positive
        (columns.map (Attribute.rename image)) =
      (overwriteCounts names count positive columns).map (Attribute.rename image) := by
  rw [overwriteCounts, overwriteCounts, List.map_map, List.map_map]
  refine List.map_congr_left fun column _ => ?_
  have listed : (names.map (Label.rename image)).contains (column.rename image).name =
      names.contains column.name := by
    rw [Bool.eq_iff_iff, List.contains_iff_mem, List.contains_iff_mem]
    exact List.mem_map_of_injective (Label.rename_injective injective)
  simp only [Function.comp_apply, listed]
  split <;> rfl

namespace Relation

theorem lookup?_rename (relation : Relation) (name : String) :
    (relation.rename image).lookup? (image name : String) =
      (relation.lookup? name).map (Attribute.rename image) := by
  rw [lookup?, lookup?, rename, List.find?_map, called_rename injective]

theorem contains_rename (relation : Relation) (name : String) :
    (relation.rename image).contains (image name : String) = relation.contains name := by
  rw [contains, contains, lookup?_rename injective, Option.isSome_map]

theorem project_rename (input : Relation) (kept : List String) :
    (input.rename image).project (kept.map image) = (input.project kept).rename image := by
  have each (name : String) :
      ((input.rename image).attributes.filter fun column => column.name == (image name : Label)) =
        (input.attributes.filter fun column => column.name == (name : Label)).map
          (Attribute.rename image) := by
    rw [rename, List.filter_map, called_rename injective]
  refine eq_of_parts rfl ?_
  rw [project, List.flatMap_map]
  simp only [each]
  rw [← List.map_flatMap]
  rfl

theorem selectValue_rename (input : Relation) (column : String) :
    RenamedAnswer image (input.selectValue column)
      ((input.rename image).selectValue (image column)) := by
  rw [selectValue, selectValue, lookup?_rename injective]
  cases input.lookup? column with
  | none => exact .refused (EstimateFault.renamed_missing [column] [input])
  | some found =>
      refine .given (eq_of_parts rfl ?_)
      exact (overwriteCounts_rename injective [column] 1 Nat.one_pos input.attributes).symm

theorem selectEqual_rename (input : Relation) (condition : Comparison) :
    RenamedAnswer image (input.selectEqual condition)
      ((input.rename image).selectEqual (condition.rename image)) := by
  have missing : RenamedAnswer image (.error (.missing [condition.left, condition.right] [input]))
      (.error (.missing [image condition.left, image condition.right] [input.rename image])) :=
    .refused (EstimateFault.renamed_missing [condition.left, condition.right] [input])
  rw [selectEqual, selectEqual, Comparison.rename, lookup?_rename injective,
    lookup?_rename injective]
  cases input.lookup? condition.left with
  | none => exact missing
  | some left =>
      cases input.lookup? condition.right with
      | none => exact missing
      | some right =>
          refine .given (eq_of_parts rfl ?_)
          exact (overwriteCounts_rename injective [condition.left, condition.right] _ _
            input.attributes).symm

theorem joinOn_rename (left right : Relation) (first second : Attribute) :
    (left.rename image).joinOn (right.rename image) (first.rename image) (second.rename image) =
      (left.joinOn right first second).rename image := by
  refine eq_of_parts rfl ?_
  have columns := overwriteCounts_rename injective [first.name, second.name]
    (min first.valueCount second.valueCount)
    (Nat.lt_min.mpr ⟨first.valueCount_pos, second.valueCount_pos⟩)
    (left.attributes ++ right.attributes)
  rw [List.map_append] at columns
  exact columns

/-- Which of its three rules a join takes depends on the names that are found, and on no name
itself. -/
theorem join_rename (left right : Relation) (condition : Comparison) :
    RenamedAnswer image (left.join right condition)
      ((left.rename image).join (right.rename image) (condition.rename image)) := by
  have within := selectEqual_rename injective left condition
  obtain ⟨one, other⟩ := condition
  have refused : RenamedAnswer image (.error (.missing [one, other] [left, right]))
      (.error (.missing [image one, image other] [left.rename image, right.rename image])) :=
    .refused (EstimateFault.renamed_missing [one, other] [left, right])
  rw [join, join, Comparison.rename, contains_rename injective, contains_rename injective]
  split
  · exact within
  · next apart =>
      simp only [lookup?_rename injective]
      rw [contains, contains] at apart
      cases here : left.lookup? one with
      | none =>
          cases left.lookup? other with
          | none => exact refused
          | some second =>
              cases right.lookup? one with
              | none => exact refused
              | some first => exact .given (joinOn_rename injective left right second first).symm
      | some first =>
          cases there : left.lookup? other with
          | some second =>
              rw [here, there] at apart
              exact absurd rfl apart
          | none =>
              cases right.lookup? other with
              | none => exact refused
              | some second =>
                  exact .given (joinOn_rename injective left right first second).symm

end Relation

end Injective

namespace Operator.Renamed

variable {operator other : Operator Relation}

theorem hasCondition_eq (renamed : operator.Renamed image other) :
    operator.hasCondition = other.hasCondition := by
  cases renamed <;> rfl

theorem hasRule (renamed : operator.Renamed image other) : operator.hasRule = true := by
  cases renamed <;> rfl

/-- Over renamed inputs an operator with renamed attributes comes to the renamed answer. -/
theorem estimate (renamed : operator.Renamed image other) (injective : Function.Injective image)
    (inputs : List Relation) :
    RenamedAnswer image (operator.estimate inputs)
      (other.estimate (inputs.map (Relation.rename image))) := by
  cases renamed with
  | scan name other base =>
      match inputs with
      | [] => exact .given rfl
      | _ :: _ => exact .refused (.unknownOperator "Scan")
  | project kept =>
      match inputs with
      | [input] => exact .given (input.project_rename injective kept).symm
      | [] => exact .refused (.unknownOperator "Project")
      | _ :: _ :: _ => exact .refused (.unknownOperator "Project")
  | selectValue column value other =>
      match inputs with
      | [input] => exact input.selectValue_rename injective column
      | [] => exact .refused (.unknownOperator "Select")
      | _ :: _ :: _ => exact .refused (.unknownOperator "Select")
  | selectEqual condition =>
      match inputs with
      | [input] => exact input.selectEqual_rename injective condition
      | [] => exact .refused (.unknownOperator "Select")
      | _ :: _ :: _ => exact .refused (.unknownOperator "Select")
  | product => exact .given (Relation.product_rename inputs).symm
  | join condition =>
      match inputs with
      | [left, right] => exact left.join_rename injective right condition
      | [] => exact .refused (.unknownOperator "Join")
      | [_] => exact .refused (.unknownOperator "Join")
      | _ :: _ :: _ :: _ => exact .refused (.unknownOperator "Join")

end Operator.Renamed

/-- Plans that are the same but for a renaming of attributes, names of scans and literals. -/
def Correspondence.ofRenaming (injective : Function.Injective image) : Correspondence where
  operators := Operator.Renamed image
  relations := fun relation result => relation.rename image = result
  faults := EstimateFault.Renamed image
  conditions := fun _ _ renamed => renamed.hasCondition_eq
  names := fun relation _ same => by rw [← same, relation.hasCompoundName_rename]
  counts := fun relation _ same => by rw [← same, relation.isWritable_rename]
  compoundName := .compoundName
  unwritable := .unwritable
  rules := by
    intro operator other inputs others renamed outputs
    have mapped := List.forall₂_map_left_iff.mpr outputs
    rw [List.forall₂_eq_eq_eq] at mapped
    rw [← mapped]
    exact renamed.estimate injective inputs

end Selectivity
