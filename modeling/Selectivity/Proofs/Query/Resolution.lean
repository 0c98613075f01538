import Selectivity.Query.Compilation

/-!
# Resolved queries

A compilation that succeeds keeps the fresh names of the FROM clause and the JOIN clauses whose
relations the catalogue has, in order, and leaves out the others. If the catalogue has all of them
and nothing is repeated or skipped, then nothing is told.
-/

namespace Selectivity.Query

variable {Base : Type} {lookup : String → Option Base} {strict : Bool}

theorem exists_of_mem_mapM {Key Value : Type} {look : Key → Option Value}
    {keys : List Key} {values : List Value} (found : keys.mapM look = some values)
    {value : Value} (member : value ∈ values) : ∃ key ∈ keys, look key = some value := by
  induction keys generalizing values with
  | nil =>
      cases found
      cases member
  | cons key rest induction =>
      rw [List.mapM_cons] at found
      obtain ⟨first, here, more⟩ := Option.bind_eq_some_iff.mp found
      obtain ⟨others, later, same⟩ := Option.bind_eq_some_iff.mp more
      cases same
      rcases List.mem_cons.mp member with rfl | within
      · exact ⟨key, List.mem_cons_self, here⟩
      · obtain ⟨other, below, known⟩ := induction later within
        exact ⟨other, List.mem_cons_of_mem key below, known⟩

theorem exists_value_of_mem {Key Value : Type} {look : Key → Option Value}
    {keys : List Key} {values : List Value} (found : keys.mapM look = some values)
    {key : Key} (member : key ∈ keys) : ∃ value, look key = some value := by
  induction keys generalizing values with
  | nil => cases member
  | cons first rest induction =>
      rw [List.mapM_cons] at found
      obtain ⟨value, here, more⟩ := Option.bind_eq_some_iff.mp found
      obtain ⟨others, later, -⟩ := Option.bind_eq_some_iff.mp more
      rcases List.mem_cons.mp member with rfl | within
      · exact ⟨value, here⟩
      · exact induction later within

theorem forall_mem_pair {Item : Type} {Good : Item → Prop} {left right : Item}
    (first : Good left) (second : Good right) : ∀ item ∈ [left, right], Good item := by
  intro item member
  rcases List.mem_cons.mp member with rfl | last
  · exact first
  · rw [List.mem_singleton.mp last]
    exact second

/-- The scan of a name in a FROM clause, if the name is fresh and in the catalogue. -/
def Source.scan? (lookup : String → Option Base) : Source → Option (BaseScan Base)
  | .fresh name => (lookup name).map (BaseScan.mk name)
  | .repeated _ => none

/-- The joins of a line, if it is a JOIN clause over a relation in the catalogue. -/
def BodyLine.group? (lookup : String → Option Base) : BodyLine → Option (JoinGroup Base)
  | .join name conditions => (lookup name).map fun base => ⟨⟨name, base⟩, conditions⟩
  | .skipped _ _ => none

private theorem eq_ok_of_map_eq_ok {ε α β : Type} {answer : Except ε α} {image : α → β}
    {value : β} (accepted : answer.map image = .ok value) :
    ∃ found, answer = .ok found ∧ image found = value := by
  cases answer with
  | error fault => cases accepted
  | ok found =>
      cases accepted
      exact ⟨found, rfl, rfl⟩

theorem findSources_eq_ok {sources : List Source} {scans : List (BaseScan Base)}
    (accepted : (findSources lookup strict sources).2 = .ok scans) :
    scans = sources.filterMap (Source.scan? lookup) := by
  induction sources generalizing scans with
  | nil =>
      cases accepted
      rfl
  | cons source rest induction =>
      cases source with
      | repeated name => exact induction accepted
      | fresh name =>
          rw [findSources] at accepted
          cases known : lookup name with
          | none =>
              simp only [known] at accepted
              split at accepted
              · cases accepted
              · rw [List.filterMap_cons_none (by rw [Source.scan?, known]; rfl)]
                exact induction accepted
          | some base =>
              simp only [known] at accepted
              obtain ⟨others, later, rfl⟩ := eq_ok_of_map_eq_ok accepted
              rw [List.filterMap_cons_some (by rw [Source.scan?, known]; rfl), induction later]

theorem findJoins_eq_ok {body : List BodyLine} {groups : List (JoinGroup Base)}
    (accepted : (findJoins lookup strict body).2 = .ok groups) :
    groups = body.filterMap (BodyLine.group? lookup) := by
  induction body generalizing groups with
  | nil =>
      cases accepted
      rfl
  | cons line rest induction =>
      cases line with
      | skipped line expected => exact induction accepted
      | join name conditions =>
          rw [findJoins] at accepted
          cases known : lookup name with
          | none =>
              simp only [known] at accepted
              split at accepted
              · cases accepted
              · rw [List.filterMap_cons_none (by rw [BodyLine.group?, known]; rfl)]
                exact induction accepted
          | some base =>
              simp only [known] at accepted
              obtain ⟨others, later, rfl⟩ := eq_ok_of_map_eq_ok accepted
              rw [List.filterMap_cons_some (by rw [BodyLine.group?, known]; rfl),
                induction later]

/-- The plan has the parts of a script as far as they are in the catalogue. -/
structure Resolves (lookup : String → Option Base) (script : Script)
    (plan : CanonicalPlan Base) : Prop where
  projection : plan.projection = script.projection
  sources : plan.first :: plan.others = script.sources.filterMap (Source.scan? lookup)
  joins : plan.joins = script.body.filterMap (BodyLine.group? lookup)
  selections : script.ending = .ok plan.selections

theorem Script.resolves_of_compile {script : Script} {plan : CanonicalPlan Base}
    (accepted : (script.compile lookup strict).outcome = .ok plan) :
    Resolves lookup script plan := by
  unfold Script.compile at accepted
  split at accepted
  · cases accepted
  · cases accepted
  · next notices first others found =>
      split at accepted
      · cases accepted
      · next more joins joined =>
          obtain ⟨selections, ending, rfl⟩ := eq_ok_of_map_eq_ok accepted
          refine ⟨rfl, ?_, ?_, ending⟩
          · exact findSources_eq_ok (congrArg Prod.snd found)
          · exact findJoins_eq_ok (congrArg Prod.snd joined)

theorem resolves_of_compile {text : List Char} {plan : CanonicalPlan Base}
    (accepted : (compile lookup strict text).outcome = .ok plan) :
    ∃ script, Script.ofText text = .ok script ∧ Resolves lookup script plan := by
  unfold compile at accepted
  split at accepted
  · next script read => exact ⟨script, read, Script.resolves_of_compile accepted⟩
  · cases accepted

theorem Source.lookup_of_scan? {source : Source} {scan : BaseScan Base}
    (found : source.scan? lookup = some scan) : lookup scan.name = some scan.base := by
  cases source with
  | repeated name => cases found
  | fresh name =>
      obtain ⟨base, known, rfl⟩ := Option.map_eq_some_iff.mp found
      exact known

theorem BodyLine.lookup_of_group? {line : BodyLine} {group : JoinGroup Base}
    (found : line.group? lookup = some group) :
    lookup group.scan.name = some group.scan.base := by
  cases line with
  | skipped line expected => cases found
  | join name conditions =>
      obtain ⟨base, known, rfl⟩ := Option.map_eq_some_iff.mp found
      exact known

/-- Every scan of a resolved plan reads what the catalogue has under its name. -/
theorem Resolves.lookup_eq {script : Script} {plan : CanonicalPlan Base}
    (resolves : Resolves lookup script plan) {scan : BaseScan Base} (member : scan ∈ plan.scans) :
    lookup scan.name = some scan.base := by
  rcases List.mem_append.mp member with source | joined
  · rw [resolves.sources] at source
    obtain ⟨name, -, found⟩ := List.mem_filterMap.mp source
    exact Source.lookup_of_scan? found
  · obtain ⟨group, within, rfl⟩ := List.mem_map.mp joined
    rw [resolves.joins] at within
    obtain ⟨line, -, found⟩ := List.mem_filterMap.mp within
    exact BodyLine.lookup_of_group? found

end Selectivity.Query
