import Selectivity.Proofs.Text.Pieces

/-!
# Lines and line ends

The lines of a text are its pieces between the line feeds, without the blank ones and without the
carriage returns at their ends. So it makes no difference whether a line feed has a carriage return
before it, whether such pairs have been unified, or how many blank lines there are.
-/

namespace Selectivity.Text

/-- The piece of a text is not blank. -/
def isSolid (piece : List Char) : Bool :=
  !piece.all isBlank

/-- The lines among the pieces of a text. -/
def rows (pieces : List (List Char)) : List (List Char) :=
  (pieces.filter isSolid).map dropReturns

theorem lines_eq_rows (text : List Char) : lines text = rows (splitAt '\n' text) :=
  rfl

theorem rows_append (front back : List (List Char)) :
    rows (front ++ back) = rows front ++ rows back := by
  rw [rows, List.filter_append, List.map_append, rows, rows]

theorem exists_returns (text : List Char) :
    ∃ returns, (∀ character ∈ returns, character = '\r') ∧ text = dropReturns text ++ returns := by
  refine ⟨(text.reverse.takeWhile (· == '\r')).reverse, fun character member => ?_, ?_⟩
  · have each := List.all_eq_true.mp (List.all_takeWhile (l := text.reverse)) character
      (List.mem_reverse.mp member)
    exact eq_of_beq each
  · rw [dropReturns, ← List.reverse_append, List.takeWhile_append_dropWhile, List.reverse_reverse]

theorem isSolid_dropReturns (piece : List Char) : isSolid (dropReturns piece) = isSolid piece := by
  obtain ⟨returns, each, whole⟩ := exists_returns piece
  -- Carriage returns are blank themselves.
  have blank : returns.all isBlank = true := by
    refine List.all_eq_true.mpr fun character member => ?_
    rw [each character member]
    decide
  have split := congrArg (List.all · isBlank) whole
  rw [List.all_append, blank, Bool.and_true] at split
  rw [isSolid, isSolid, split]

theorem dropReturns_cons {piece other : List Char} (character : Char)
    (same : dropReturns piece = dropReturns other) :
    dropReturns (character :: piece) = dropReturns (character :: other) := by
  have reversed := List.reverse_inj.mp same
  rw [dropReturns, dropReturns, List.reverse_cons, List.reverse_cons, List.dropWhile_append,
    List.dropWhile_append, reversed]

/-- Two texts have the same pieces between their line feeds, but for carriage returns at the ends of
these. -/
def Level (text other : List Char) : Prop :=
  (splitAt '\n' text).map dropReturns = (splitAt '\n' other).map dropReturns

theorem Level.lines_eq {text other : List Char} (level : Level text other) :
    lines text = lines other := by
  have through : ∀ pieces, rows pieces = (pieces.map dropReturns).filter isSolid := by
    intro pieces
    have same : isSolid ∘ dropReturns = isSolid := funext isSolid_dropReturns
    rw [List.filter_map, same, rows]
  rw [lines_eq_rows, lines_eq_rows, through, through, level]

theorem splitAt_ne_nil (separator : Char) (text : List Char) : splitAt separator text ≠ [] := by
  rw [splitAt_eq_splitOn]
  exact List.splitOn_ne_nil separator text

theorem splitAt_lineFeed (rest : List Char) :
    splitAt '\n' ('\n' :: rest) = [] :: splitAt '\n' rest :=
  if_pos rfl

theorem splitAt_returnLineFeed (rest : List Char) :
    splitAt '\n' ('\r' :: '\n' :: rest) = ['\r'] :: splitAt '\n' rest :=
  rfl

theorem Level.cons {text other : List Char} (level : Level text other) (character : Char) :
    Level (character :: text) (character :: other) := by
  rw [Level, splitAt, splitAt]
  by_cases lineFeed : character = '\n'
  · rw [if_pos lineFeed, if_pos lineFeed, List.map_cons, List.map_cons, level]
  · rw [if_neg lineFeed, if_neg lineFeed]
    rw [Level] at level
    cases here : splitAt '\n' text with
    | nil => exact absurd here (splitAt_ne_nil '\n' text)
    | cons piece pieces =>
        cases there : splitAt '\n' other with
        | nil => exact absurd there (splitAt_ne_nil '\n' other)
        | cons another others =>
            rw [here, there, List.map_cons, List.map_cons, List.cons.injEq] at level
            rw [List.map_cons, List.map_cons, dropReturns_cons character level.1, level.2]

theorem Level.lineFeed {text other : List Char} (level : Level text other) :
    Level ('\n' :: text) ('\r' :: '\n' :: other) := by
  rw [Level, splitAt_lineFeed, splitAt_returnLineFeed, List.map_cons, List.map_cons, level]
  rfl

/-- Every carriage return is directly followed by a line feed. -/
def ReturnsClosed (text : List Char) : Prop :=
  ∀ before after, text = before ++ '\r' :: after → after.head? = some '\n'

theorem ReturnsClosed.nil : ReturnsClosed [] :=
  fun _ _ split => absurd split.symm (List.append_ne_nil_of_right_ne_nil _ (List.cons_ne_nil _ _))

theorem returnsClosed_cons_iff {character : Char} {rest : List Char} :
    ReturnsClosed (character :: rest) ↔
      (character = '\r' → rest.head? = some '\n') ∧ ReturnsClosed rest := by
  constructor
  · intro closed
    refine ⟨fun same => closed [] rest (congrArg (· :: rest) same), fun before after split => ?_⟩
    exact closed (character :: before) after (congrArg (character :: ·) split)
  · rintro ⟨first, later⟩ before after split
    cases before with
    | nil =>
        cases split
        exact first rfl
    | cons _ before => exact later before after (List.cons.inj split).2

def decideReturnsClosed : (text : List Char) → Decidable (ReturnsClosed text)
  | [] => isTrue .nil
  | _ :: rest =>
      have := decideReturnsClosed rest
      decidable_of_iff _ returnsClosed_cons_iff.symm

instance : DecidablePred ReturnsClosed :=
  decideReturnsClosed

theorem ReturnsClosed.tail {character : Char} {rest : List Char}
    (closed : ReturnsClosed (character :: rest)) : ReturnsClosed rest :=
  (returnsClosed_cons_iff.mp closed).2

theorem ReturnsClosed.follows {rest : List Char} (closed : ReturnsClosed ('\r' :: rest)) :
    ∃ later, rest = '\n' :: later :=
  List.head?_eq_some_iff.mp ((returnsClosed_cons_iff.mp closed).1 rfl)

theorem ReturnsClosed.cons {character : Char} {rest : List Char} (closed : ReturnsClosed rest)
    (other : character ≠ '\r') : ReturnsClosed (character :: rest) :=
  returnsClosed_cons_iff.mpr ⟨fun same => absurd same other, closed⟩

theorem ReturnsClosed.lineFeed {rest : List Char} (closed : ReturnsClosed rest) :
    ReturnsClosed ('\r' :: '\n' :: rest) :=
  returnsClosed_cons_iff.mpr ⟨fun _ => rfl, closed.cons (by decide)⟩

/-- Puts a carriage return before every line feed that has none. -/
def addReturns : List Char → List Char
  | [] => []
  | '\r' :: '\n' :: rest => '\r' :: '\n' :: addReturns rest
  | '\n' :: rest => '\r' :: '\n' :: addReturns rest
  | character :: rest => character :: addReturns rest

theorem level_addReturns (text : List Char) : Level text (addReturns text) := by
  induction text using addReturns.induct with
  | case1 => rfl
  | case2 rest induction => exact (induction.cons '\n').cons '\r'
  | case3 rest induction => exact induction.lineFeed
  | case4 character rest noPair noLineFeed induction =>
      rw [addReturns]
      · exact induction.cons character
      · exact noPair
      · exact noLineFeed

/-- Where every carriage return belongs to a line feed, a stream is read like the text itself. -/
theorem level_unifyLineEnds (text : List Char) (closed : ReturnsClosed text) :
    Level (unifyLineEnds text) text := by
  induction text using unifyLineEnds.induct with
  | case1 => rfl
  | case2 rest induction => exact (induction closed.tail.tail).lineFeed
  | case3 rest single induction =>
      -- A stream would also end a line at a carriage return on its own.
      obtain ⟨later, split⟩ := closed.follows
      exact absurd split (single later)
  | case4 character rest single other induction =>
      rw [unifyLineEnds]
      · exact (induction closed.tail).cons character
      · exact single
      · exact other

/-- The line feeds that are there keep their carriage returns, and the others get one. -/
theorem ReturnsClosed.addReturns {text : List Char} (closed : ReturnsClosed text) :
    ReturnsClosed (addReturns text) := by
  induction text using Text.addReturns.induct with
  | case1 => exact closed
  | case2 rest induction => exact (induction closed.tail.tail).lineFeed
  | case3 rest induction => exact (induction closed.tail).lineFeed
  | case4 character rest noPair noLineFeed induction =>
      have noReturn : character ≠ '\r' := by
        rintro rfl
        obtain ⟨later, split⟩ := closed.follows
        exact noPair later rfl split
      rw [Text.addReturns]
      · exact (induction closed.tail).cons noReturn
      · exact noPair
      · exact noLineFeed

/-- Lines are put in at one or several places of a text, or taken out. Which lines are allowed may
depend on the pieces of the text before and behind the place. -/
inductive Edited (Allowed : (before added after : List (List Char)) → Prop) :
    List Char → List Char → Prop where
  | insert {text other : List Char} (before added after : List (List Char))
      (allowed : Allowed before added after) (here : splitAt '\n' text = before ++ after)
      (there : splitAt '\n' other = before ++ (added ++ after)) : Edited Allowed text other
  | symm {text other : List Char} (edited : Edited Allowed text other) : Edited Allowed other text
  | trans {text other third : List Char} (first : Edited Allowed text other)
      (second : Edited Allowed other third) : Edited Allowed text third

/-- Lines that consist of white space are put in anywhere or taken out. -/
def Spaced : List Char → List Char → Prop :=
  Edited fun _ added _ => ∀ line ∈ added, line.all isBlank = true

theorem Spaced.lines_eq {text other : List Char} (spaced : Spaced text other) :
    lines text = lines other := by
  induction spaced with
  | insert before added after blank here there =>
      have nothing : rows added = [] := by
        have none : added.filter isSolid = [] := by
          refine List.filter_eq_nil_iff.mpr fun line member => ?_
          rw [isSolid, blank line member]
          exact Bool.false_ne_true
        rw [rows, none, List.map_nil]
      rw [lines_eq_rows, lines_eq_rows, here, there, rows_append, rows_append, rows_append, nothing,
        List.nil_append]
  | symm _ induction => exact induction.symm
  | trans _ _ first second => exact first.trans second

end Selectivity.Text
