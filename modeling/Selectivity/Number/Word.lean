/-!
# Words

A table can hold the entries of a column in words of one kind, and gives them out as such words. A
word is worth the same as the value in it. It has a form of its own, and only 64-bit numbers are
written to a document in spite of it.
-/

namespace Selectivity

/-- A kind of word. -/
inductive WordKind where
  | signed
  | unsigned
  | real
  | truth
  deriving DecidableEq, Repr

namespace WordKind

/-- The first number beyond 64 bits with a sign, the power 63 of two. -/
def signedLimit : Int :=
  0x8000000000000000

/-- The first number beyond 64 bits without a sign, the power 64 of two. -/
def unsignedLimit : Int :=
  0x10000000000000000

/-- The form of a word, from the form of the value in it. -/
def literal : WordKind → String → String
  | .signed, value => "np.int64(" ++ value ++ ")"
  | .unsigned, value => "np.uint64(" ++ value ++ ")"
  | .real, value => "np.float64(" ++ value ++ ")"
  | .truth, value => "np." ++ value ++ "_"

/-- The kind of a row of words, from the kinds of its columns. Numbers of different kinds become
64-bit numbers, but truth values and numbers have no kind in common. -/
def common? : List WordKind → Option WordKind
  | [] => none
  | first :: rest =>
      if rest.all (· == first) then some first
      else if (first :: rest).contains .truth then none
      else some .real

end WordKind

end Selectivity
