import Selectivity.Proofs.Query.Resolution
import Selectivity.Proofs.Text.Pieces

/-!
# What the lines of a query say

A plan comes of the text of a query line by line: the first line tells the projection, the second
one the products, each later line with JOIN in front a group of joins, and the last one the
selections if it has WHERE in front. Names that were repeated, relations that the catalogue does
not have and other lines leave no trace.
-/

namespace Selectivity.Query

open Text

variable {Base : Type} {lookup : String → Option Base} {strict : Bool}

/-- The scan of a name, if it is in the catalogue. -/
def baseScan? (lookup : String → Option Base) (name : String) : Option (BaseScan Base) :=
  (lookup name).map (BaseScan.mk name)

/-- The joins with a relation, if it is in the catalogue. -/
def joinGroup? (lookup : String → Option Base) (join : String × List Comparison) :
    Option (JoinGroup Base) :=
  (lookup join.1).map fun base => ⟨⟨join.1, base⟩, join.2⟩

/-- The relation and the comparisons of a JOIN line, if all of its items are comparisons. -/
def joinLine? (line : List Char) : Option (String × List Comparison) :=
  (joinParts? line).bind fun (word, conditions) =>
    ((items conditions).mapM comparison?).map fun comparisons =>
      (String.ofList word, comparisons)

/-- A SELECT line asks for a projection: for none by a lone asterisk, and otherwise for the words
that it lists. -/
inductive SelectLine (line : List Char) : Option (List String) → Prop where
  | all {listed : List Char} (follows : afterKeyword? "SELECT" line = some listed)
      (asterisk : trim listed = ['*']) : SelectLine line none
  | names {listed : List Char} (follows : afterKeyword? "SELECT" line = some listed)
      (other : trim listed ≠ ['*']) (words : ∀ item ∈ items listed, isWord item = true) :
      SelectLine line (some ((items listed).map String.ofList))

/-- A FROM line lists names, all of them words. -/
inductive FromLine (line : List Char) : List String → Prop where
  | names {listed : List Char} (follows : afterKeyword? "FROM" line = some listed)
      (words : ∀ item ∈ items listed, isWord item = true) :
      FromLine line ((items listed).map String.ofList)

/-- The last of some lines tells the selections if it has WHERE in front; otherwise there are
none. -/
inductive LastLine (rest : List (List Char)) : List Predicate → Prop where
  | conditions {line listed : List Char} {conditions : List Predicate}
      (last : rest.getLast? = some line) (starts : startsWith "WHERE" line = true)
      (follows : afterKeyword? "WHERE" line = some listed)
      (read : (items listed).mapM condition? = some conditions) : LastLine rest conditions
  | other (other : ∀ line, rest.getLast? = some line → startsWith "WHERE" line = false) :
      LastLine rest []

/-- The parts of a plan are what the lines of a text say, as far as the catalogue has the
relations: the products scan the names of the second line, each where it stands first, and the
groups of joins follow the JOIN lines. -/
inductive Says (lookup : String → Option Base) (text : List Char)
    (plan : CanonicalPlan Base) : Prop where
  | lines (selectLine fromLine : List Char) (rest : List (List Char)) (names : List String)
      (joins : List (String × List Comparison))
      (order : Text.lines text = selectLine :: fromLine :: rest)
      (projection : SelectLine selectLine plan.projection)
      (sources : FromLine fromLine names)
      (products : plan.first :: plan.others = names.eraseDups.filterMap (baseScan? lookup))
      (joinLines : (rest.filter (startsWith "JOIN")).map joinLine? = joins.map some)
      (groups : plan.joins = joins.filterMap (joinGroup? lookup))
      (selections : LastLine rest plan.selections) : Says lookup text plan

theorem words?_eq_some {listed : List Char} {names : List String}
    (read : words? listed = some names) :
    (∀ item ∈ items listed, isWord item = true) ∧ names = (items listed).map String.ofList := by
  unfold words? at read
  split at read
  · next words =>
      cases read
      exact ⟨List.all_eq_true.mp words, rfl⟩
  · cases read

theorem readProjection_eq_ok {line : List Char} {projection : Option (List String)}
    (read : readProjection line = .ok projection) : SelectLine line projection := by
  unfold readProjection at read
  split at read
  · cases read
  · next listed follows =>
      split at read
      · next asterisk =>
          cases read
          exact .all follows asterisk
      · next other =>
          split at read
          · next names listedNames =>
              cases read
              obtain ⟨words, rfl⟩ := words?_eq_some listedNames
              exact .names follows other words
          · cases read

theorem readSources_eq_ok {line : List Char} {sources : List Source}
    (read : readSources line = .ok sources) :
    ∃ names, FromLine line names ∧ sources = markRepeated [] names := by
  unfold readSources at read
  split at read
  · cases read
  · next listed follows =>
      split at read
      · next names listedNames =>
          cases read
          obtain ⟨words, rfl⟩ := words?_eq_some listedNames
          exact ⟨_, .names follows words, rfl⟩
      · cases read

def Source.fresh? : Source → Option String
  | .fresh name => some name
  | .repeated _ => none

theorem filterMap_scan? (sources : List Source) :
    sources.filterMap (Source.scan? lookup) =
      (sources.filterMap Source.fresh?).filterMap (baseScan? lookup) := by
  rw [List.filterMap_filterMap]
  congr
  funext source
  cases source <;> rfl

theorem markRepeated_known {mentioned : List String} {name : String} (rest : List String)
    (known : mentioned.contains name = true) :
    markRepeated mentioned (name :: rest) = .repeated name :: markRepeated mentioned rest := by
  rw [markRepeated, register, if_pos known]

theorem markRepeated_unknown {mentioned : List String} {name : String} (rest : List String)
    (unknown : mentioned.contains name = false) :
    markRepeated mentioned (name :: rest) =
      .fresh name :: markRepeated (name :: mentioned) rest := by
  rw [markRepeated, register, unknown]
  rfl

/-- The names that are mentioned for the first time are the distinct names that were not mentioned
before, each where it stands first. -/
theorem fresh_markRepeated (mentioned names : List String) :
    (markRepeated mentioned names).filterMap Source.fresh? =
      (names.filter fun name => !mentioned.contains name).eraseDups := by
  induction names generalizing mentioned with
  | nil => rfl
  | cons name rest induction =>
      cases known : mentioned.contains name with
      | true =>
          rw [markRepeated_known rest known, List.filterMap_cons_none rfl, induction,
            List.filter_cons_of_neg (by rw [known]; exact Bool.false_ne_true)]
      | false =>
          have others : (rest.filter fun other => !(name :: mentioned).contains other) =
              (rest.filter fun other => !mentioned.contains other).filter
                fun other => !other == name := by
            rw [List.filter_filter]
            apply List.filter_congr
            intro other _
            rw [List.contains_cons, Bool.not_or]
          have noted : (Source.fresh name).fresh? = some name := rfl
          rw [markRepeated_unknown rest known, List.filterMap_cons_some noted, induction,
            List.filter_cons_of_pos (by rw [known]; rfl), List.eraseDups_cons, others]

theorem name_markRepeated (mentioned names : List String) :
    (markRepeated mentioned names).map Source.name = names := by
  induction names generalizing mentioned with
  | nil => rfl
  | cons name rest induction =>
      cases known : mentioned.contains name with
      | true =>
          rw [markRepeated_known rest known, List.map_cons, induction]
          rfl
      | false =>
          rw [markRepeated_unknown rest known, List.map_cons, induction]
          rfl

def BodyLine.join? : BodyLine → Option (String × List Comparison)
  | .join name conditions => some (name, conditions)
  | .skipped _ _ => none

theorem filterMap_group? (body : List BodyLine) :
    body.filterMap (BodyLine.group? lookup) =
      (body.filterMap BodyLine.join?).filterMap (joinGroup? lookup) := by
  rw [List.filterMap_filterMap]
  congr
  funext line
  cases line <;> rfl

theorem readComparisons_eq_ok {texts : List (List Char)} {comparisons : List Comparison}
    (read : readComparisons texts = .ok comparisons) : texts.mapM comparison? = some comparisons := by
  induction texts generalizing comparisons with
  | nil =>
      cases read
      rfl
  | cons item rest induction =>
      rw [readComparisons] at read
      split at read
      · cases read
      · next comparison found =>
          split at read
          · next others later =>
              cases read
              rw [List.mapM_cons, found, induction later]
              rfl
          · cases read

theorem readConditions_eq_ok {texts : List (List Char)} {conditions : List Predicate}
    (read : readConditions texts = .ok conditions) : texts.mapM condition? = some conditions := by
  induction texts generalizing conditions with
  | nil =>
      cases read
      rfl
  | cons item rest induction =>
      rw [readConditions] at read
      split at read
      · cases read
      · next condition found =>
          split at read
          · next others later =>
              cases read
              rw [List.mapM_cons, found, induction later]
              rfl
          · cases read

theorem readJoin_eq_ok {mentioned : List String} {line : List Char}
    {join : String × List Comparison} (read : readJoin mentioned line = .ok join) :
    joinLine? line = some join ∧ join.1 ∉ mentioned := by
  unfold readJoin at read
  split at read
  · cases read
  · next word conditions parts =>
      simp only at read
      split at read
      · cases read
      · next unknown =>
          split at read
          · next comparisons found =>
              cases read
              refine ⟨?_, fun member => unknown (List.contains_iff_mem.mpr member)⟩
              rw [joinLine?, parts]
              exact congrArg (Option.map _) (readComparisons_eq_ok found)
          · cases read

theorem not_join_of_where {line : List Char} (starts : startsWith "WHERE" line = true) :
    startsWith "JOIN" line = false := by
  cases line with
  | nil => rfl
  | cons character rest =>
      have first : 'W' = character := by
        simp [startsWith] at starts
        exact starts.1
      subst first
      rfl

structure BodyRead (mentioned : List String) (rest : List (List Char))
    (joins : List (String × List Comparison)) (selections : List Predicate) : Prop where
  joinLines : (rest.filter (startsWith "JOIN")).map joinLine? = joins.map some
  unmentioned : ∀ name ∈ joins.map Prod.fst, name ∉ mentioned
  distinct : (joins.map Prod.fst).Nodup
  selections : LastLine rest selections

theorem LastLine.cons {line next : List Char} {rest : List (List Char)}
    {selections : List Predicate} (last : LastLine (next :: rest) selections) :
    LastLine (line :: next :: rest) selections := by
  cases last with
  | conditions last starts follows read =>
      exact .conditions (List.getLast?_cons_cons.trans last) starts follows read
  | other other => exact .other fun line last => other line (List.getLast?_cons_cons.symm.trans last)

theorem BodyRead.skip {mentioned : List String} {line next : List Char}
    {rest : List (List Char)} {joins : List (String × List Comparison)}
    {selections : List Predicate} (other : startsWith "JOIN" line = false)
    (read : BodyRead mentioned (next :: rest) joins selections) :
    BodyRead mentioned (line :: next :: rest) joins selections := by
  refine ⟨?_, read.unmentioned, read.distinct, read.selections.cons⟩
  rw [List.filter_cons_of_neg (by rw [other]; exact Bool.false_ne_true)]
  exact read.joinLines

/-- A JOIN line in front adds its joins to those of the lines behind it, which know its relation as
mentioned. -/
theorem BodyRead.join {mentioned : List String} {line next : List Char}
    {rest : List (List Char)} {join : String × List Comparison}
    {joins : List (String × List Comparison)} {selections : List Predicate}
    (starts : startsWith "JOIN" line = true) (here : joinLine? line = some join)
    (unmentioned : join.1 ∉ mentioned)
    (read : BodyRead (join.1 :: mentioned) (next :: rest) joins selections) :
    BodyRead mentioned (line :: next :: rest) (join :: joins) selections := by
  refine ⟨?_, ?_, ?_, read.selections.cons⟩
  · rw [List.filter_cons_of_pos starts, List.map_cons, List.map_cons, here, read.joinLines]
  · intro name member
    rcases List.mem_cons.mp member with rfl | later
    · exact unmentioned
    · exact fun known => read.unmentioned name later (List.mem_cons_of_mem _ known)
  · refine List.nodup_cons.mpr ⟨fun member => ?_, read.distinct⟩
    exact read.unmentioned join.1 member List.mem_cons_self

theorem readSelections_eq_ok {line : List Char} {conditions : List Predicate}
    (starts : startsWith "WHERE" line = true) (read : readSelections line = .ok conditions) :
    LastLine [line] conditions := by
  unfold readSelections at read
  split at read
  · cases read
  · next listed follows =>
      exact .conditions rfl starts follows (readConditions_eq_ok read)

theorem LastLine.single {line : List Char} (other : ¬ startsWith "WHERE" line = true) :
    LastLine [line] [] := by
  refine .other fun last same => ?_
  cases same
  exact Bool.eq_false_iff.mpr other

/-- Lines that are read without fault say what is read from them. -/
theorem readBody_eq_ok {mentioned : List String} {rest : List (List Char)}
    {body : List BodyLine} {selections : List Predicate}
    (read : readBody mentioned rest = (body, .ok selections)) :
    BodyRead mentioned rest (body.filterMap BodyLine.join?) selections := by
  induction mentioned, rest using readBody.induct generalizing body with
  | case1 =>
      cases read
      exact ⟨rfl, nofun, List.nodup_nil, .other nofun⟩
  | case2 mentioned last starts =>
      rw [readBody, if_pos starts, Prod.mk.injEq] at read
      obtain ⟨rfl, read⟩ := read
      refine ⟨?_, nofun, List.nodup_nil, readSelections_eq_ok starts read⟩
      rw [List.filter_cons_of_neg (by rw [not_join_of_where starts]; exact Bool.false_ne_true)]
      rfl
  | case3 mentioned last noWhere starts relation conditions joined =>
      rw [readBody, if_neg noWhere, if_pos starts, joined] at read
      cases read
      obtain ⟨here, unmentioned⟩ := readJoin_eq_ok joined
      refine ⟨?_, ?_, List.pairwise_singleton _ _, .single noWhere⟩
      · rw [List.filter_cons_of_pos starts]
        exact congrArg (fun found => [found]) here
      · intro name member
        rw [List.mem_singleton.mp member]
        exact unmentioned
  | case4 mentioned last noWhere starts fault failed =>
      rw [readBody, if_neg noWhere, if_pos starts, failed] at read
      cases read
  | case5 mentioned last noWhere noJoin =>
      rw [readBody, if_neg noWhere, if_neg noJoin] at read
      cases read
      refine ⟨?_, nofun, List.nodup_nil, .single noWhere⟩
      rw [List.filter_cons_of_neg noJoin]
      rfl
  | case6 mentioned line next rest starts relation conditions joined later ending found induction =>
      rw [readBody, if_pos starts, joined] at read
      simp only [found] at read
      cases read
      obtain ⟨here, unmentioned⟩ := readJoin_eq_ok joined
      exact .join starts here unmentioned (induction found)
  | case7 mentioned line next rest starts fault failed =>
      rw [readBody, if_pos starts, failed] at read
      cases read
  | case8 mentioned line next rest noJoin later ending found induction =>
      rw [readBody, if_neg noJoin] at read
      simp only [found] at read
      cases read
      have kept := induction found
      exact kept.skip (Bool.eq_false_iff.mpr noJoin)

theorem Script.ofText_eq_ok {text : List Char} {script : Script}
    (read : Script.ofText text = .ok script) :
    ∃ selectLine fromLine rest, Text.lines text = selectLine :: fromLine :: rest ∧
      readProjection selectLine = .ok script.projection ∧
      readSources fromLine = .ok script.sources ∧
      readBody (script.sources.map Source.name) rest = (script.body, script.ending) := by
  unfold Script.ofText Script.ofLines at read
  split at read
  · next selectLine fromLine rest order =>
      split at read
      · cases read
      · next projection selected =>
          split at read
          · cases read
          · next sources found =>
              cases read
              exact ⟨selectLine, fromLine, rest, order, selected, found, rfl⟩
  · cases read

/-- What is found for some of the items comes under their names, in their order. -/
private theorem sublist_names {Item Found : Type} (find : Item → Option Found)
    (name : Item → String) (foundName : Found → String)
    (keeps : ∀ item found, find item = some found → foundName found = name item)
    (items : List Item) : ((items.filterMap find).map foundName).Sublist (items.map name) := by
  induction items with
  | nil => exact List.Sublist.refl _
  | cons item rest induction =>
      cases found : find item with
      | none =>
          rw [List.filterMap_cons_none found]
          exact induction.cons _
      | some value =>
          rw [List.filterMap_cons_some found, List.map_cons, List.map_cons, keeps item value found]
          exact induction.cons_cons _

theorem sublist_baseScans (lookup : String → Option Base) (names : List String) :
    ((names.filterMap (baseScan? lookup)).map BaseScan.name).Sublist names := by
  have sub := sublist_names (baseScan? lookup) id BaseScan.name (fun name scan found => by
    obtain ⟨base, -, rfl⟩ := Option.map_eq_some_iff.mp found
    rfl) names
  rw [List.map_id] at sub
  exact sub

theorem sublist_joinGroups (lookup : String → Option Base)
    (joins : List (String × List Comparison)) :
    ((joins.filterMap (joinGroup? lookup)).map fun group => group.scan.name).Sublist
      (joins.map Prod.fst) :=
  sublist_names (joinGroup? lookup) Prod.fst _ (fun join group found => by
    obtain ⟨base, -, rfl⟩ := Option.map_eq_some_iff.mp found
    rfl) joins

/-- A query that is compiled says the parts of its plan, and no relation is scanned under a name
twice. -/
theorem says_of_compile {text : List Char} {plan : CanonicalPlan Base}
    (accepted : (compile lookup strict text).outcome = .ok plan) :
    Says lookup text plan ∧ (plan.scans.map BaseScan.name).Nodup := by
  obtain ⟨script, read, resolves⟩ := resolves_of_compile accepted
  obtain ⟨selectLine, fromLine, rest, order, selected, listed, behind⟩ := Script.ofText_eq_ok read
  obtain ⟨names, sources, marked⟩ := readSources_eq_ok listed
  rw [marked, name_markRepeated, resolves.selections] at behind
  have body := readBody_eq_ok behind
  have products : plan.first :: plan.others = names.eraseDups.filterMap (baseScan? lookup) := by
    have all : (names.filter fun name => !([] : List String).contains name) = names :=
      List.filter_eq_self.mpr fun _ _ => rfl
    rw [resolves.sources, filterMap_scan?, marked, fresh_markRepeated, all]
  have groups : plan.joins = (script.body.filterMap BodyLine.join?).filterMap (joinGroup? lookup) := by
    rw [resolves.joins, filterMap_group?]
  refine ⟨.lines selectLine fromLine rest names _ order ?_ sources products body.joinLines groups
    body.selections, ?_⟩
  · rw [resolves.projection]
    exact readProjection_eq_ok selected
  · have scanned := sublist_baseScans lookup names.eraseDups
    have joined := sublist_joinGroups lookup (script.body.filterMap BodyLine.join?)
    rw [← products] at scanned
    rw [← groups] at joined
    have apart : (names.eraseDups ++ (script.body.filterMap BodyLine.join?).map Prod.fst).Nodup := by
      refine List.nodup_append.mpr ⟨Entries.nodup_eraseDups names, body.distinct, ?_⟩
      rintro name source other member rfl
      exact body.unmentioned name member (List.mem_eraseDups.mp source)
    rw [CanonicalPlan.scans, List.map_append, List.map_map]
    exact apart.sublist (scanned.append joined)

/-- The text is a word: not empty, and made of word characters only. -/
def Word (text : String) : Prop :=
  isWord text.toList = true

instance (text : String) : Decidable (Word text) :=
  inferInstanceAs (Decidable (isWord text.toList = true))

theorem word_ofList {characters : List Char} (word : isWord characters = true) :
    Word (String.ofList characters) := by
  rw [Word, String.toList_ofList]
  exact word

/-- The names and literals of a canonical plan. -/
def CanonicalPlan.texts (plan : CanonicalPlan Base) : List String :=
  plan.projection.getD [] ++ plan.scans.map BaseScan.name ++
    (plan.joins.flatMap fun group =>
      group.conditions.flatMap fun condition => [condition.left, condition.right]) ++
    plan.selections.flatMap fun condition => [condition.parts.1, condition.parts.2]

theorem comparison?_words {text : List Char} {comparison : Comparison}
    (read : comparison? text = some comparison) :
    Word comparison.left ∧ Word comparison.right := by
  unfold comparison? at read
  split at read
  · split at read
    · next words =>
        cases read
        obtain ⟨left, right⟩ := Bool.and_eq_true_iff.mp words
        exact ⟨word_ofList left, word_ofList right⟩
    · cases read
  · cases read

theorem valueCondition?_words {text : List Char} {condition : Predicate}
    (read : valueCondition? text = some condition) :
    Word condition.parts.1 ∧ Word condition.parts.2 := by
  unfold valueCondition? at read
  split at read
  · split at read
    · split at read
      · next words =>
          cases read
          obtain ⟨column, value⟩ := Bool.and_eq_true_iff.mp words
          exact ⟨word_ofList column, word_ofList value⟩
      · cases read
    · cases read
  · cases read

theorem condition?_words {text : List Char} {condition : Predicate}
    (read : condition? text = some condition) :
    Word condition.parts.1 ∧ Word condition.parts.2 := by
  rcases Option.or_eq_some_iff.mp read with value | ⟨-, both⟩
  · exact valueCondition?_words value
  · obtain ⟨comparison, found, rfl⟩ := Option.map_eq_some_iff.mp both
    exact comparison?_words found

theorem wordBeforeOn?_word {text word after : List Char}
    (found : wordBeforeOn? text = some (word, after)) : isWord word = true := by
  induction text generalizing word with
  | nil => cases found
  | cons character rest induction =>
      rw [wordBeforeOn?] at found
      split at found
      · next wordChar =>
          split at found
          · next longer _ more =>
              cases found
              have all := (Bool.and_eq_true_iff.mp (induction more)).2
              exact Bool.and_eq_true_iff.mpr ⟨rfl, Bool.and_eq_true_iff.mpr ⟨wordChar, all⟩⟩
          · obtain ⟨_, -, same⟩ := Option.map_eq_some_iff.mp found
            cases same
            exact Bool.and_eq_true_iff.mpr ⟨rfl, Bool.and_eq_true_iff.mpr ⟨wordChar, rfl⟩⟩
      · cases found

theorem joinLine?_words {line : List Char} {join : String × List Comparison}
    (read : joinLine? line = some join) :
    Word join.1 ∧ join.2 ≠ [] ∧
      ∀ comparison ∈ join.2, Word comparison.left ∧ Word comparison.right := by
  obtain ⟨⟨word, conditions⟩, parts, rest⟩ := Option.bind_eq_some_iff.mp read
  obtain ⟨comparisons, found, rfl⟩ := Option.map_eq_some_iff.mp rest
  obtain ⟨behind, -, before⟩ := Option.bind_eq_some_iff.mp parts
  refine ⟨word_ofList (wordBeforeOn?_word before), ?_, fun comparison member => ?_⟩
  · rintro rfl
    cases listed : items conditions with
    | nil => exact items_ne_nil conditions listed
    | cons item others =>
        rw [listed, List.mapM_cons] at found
        obtain ⟨_, -, more⟩ := Option.bind_eq_some_iff.mp found
        obtain ⟨_, -, same⟩ := Option.bind_eq_some_iff.mp more
        cases same
  · obtain ⟨item, -, here⟩ := exists_of_mem_mapM found member
    exact comparison?_words here

namespace Says

variable {text : List Char} {plan : CanonicalPlan Base}

theorem exists_line (spoken : Says lookup text plan) {group : JoinGroup Base}
    (member : group ∈ plan.joins) :
    ∃ line, joinLine? line = some (group.scan.name, group.conditions) := by
  cases spoken with
  | lines selectLine fromLine rest names joins order projection sources products lines groups =>
      rw [groups] at member
      obtain ⟨join, within, found⟩ := List.mem_filterMap.mp member
      obtain ⟨base, -, rfl⟩ := Option.map_eq_some_iff.mp found
      have listed : some join ∈ (rest.filter (startsWith "JOIN")).map joinLine? := by
        rw [lines]
        exact List.mem_map_of_mem within
      obtain ⟨line, -, read⟩ := List.mem_map.mp listed
      exact ⟨line, read⟩

theorem conditions_ne_nil (spoken : Says lookup text plan) :
    ∀ group ∈ plan.joins, group.conditions ≠ [] := by
  intro group member
  obtain ⟨line, read⟩ := spoken.exists_line member
  exact (joinLine?_words read).2.1

theorem word_of_mem_projection (spoken : Says lookup text plan) :
    ∀ name ∈ plan.projection.getD [], Word name := by
  cases spoken with
  | lines selectLine fromLine rest names joins order projection =>
      intro name member
      cases selected : plan.projection with
      | none =>
          rw [selected] at member
          cases member
      | some kept =>
          rw [selected] at member projection
          cases projection with
          | names follows other words =>
              obtain ⟨item, within, rfl⟩ := List.mem_map.mp member
              exact word_ofList (words item within)

theorem word_of_mem_scans (spoken : Says lookup text plan) :
    ∀ scan ∈ plan.scans, Word scan.name := by
  intro scan member
  rcases List.mem_append.mp member with source | joined
  · cases spoken with
    | lines selectLine fromLine rest names joins order projection sources products =>
        rw [products] at source
        obtain ⟨name, within, found⟩ := List.mem_filterMap.mp source
        obtain ⟨base, -, rfl⟩ := Option.map_eq_some_iff.mp found
        cases sources with
        | names follows words =>
            obtain ⟨item, listed, rfl⟩ := List.mem_map.mp (List.mem_eraseDups.mp within)
            exact word_ofList (words item listed)
  · obtain ⟨group, within, rfl⟩ := List.mem_map.mp joined
    obtain ⟨line, read⟩ := spoken.exists_line within
    exact (joinLine?_words read).1

theorem words_of_mem_selections (spoken : Says lookup text plan) :
    ∀ condition ∈ plan.selections, Word condition.parts.1 ∧ Word condition.parts.2 := by
  cases spoken with
  | lines selectLine fromLine rest names joins order projection sources products lines groups
      selections =>
      intro condition member
      cases told : plan.selections with
      | nil =>
          rw [told] at member
          cases member
      | cons first others =>
          rw [told] at member selections
          cases selections with
          | conditions last starts follows read =>
              obtain ⟨item, -, here⟩ := exists_of_mem_mapM read member
              exact condition?_words here

theorem word_of_mem_texts (spoken : Says lookup text plan) : ∀ name ∈ plan.texts, Word name := by
  intro name member
  rw [CanonicalPlan.texts, List.mem_append, List.mem_append, List.mem_append] at member
  rcases member with ((projected | scanned) | joined) | selected
  · exact spoken.word_of_mem_projection name projected
  · obtain ⟨scan, within, rfl⟩ := List.mem_map.mp scanned
    exact spoken.word_of_mem_scans scan within
  · obtain ⟨group, within, inGroup⟩ := List.mem_flatMap.mp joined
    obtain ⟨comparison, listed, either⟩ := List.mem_flatMap.mp inGroup
    obtain ⟨line, read⟩ := spoken.exists_line within
    obtain ⟨left, right⟩ := (joinLine?_words read).2.2 comparison listed
    exact forall_mem_pair left right name either
  · obtain ⟨condition, within, either⟩ := List.mem_flatMap.mp selected
    obtain ⟨first, second⟩ := spoken.words_of_mem_selections condition within
    exact forall_mem_pair first second name either

end Says

end Selectivity.Query
