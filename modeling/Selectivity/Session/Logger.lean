
/-!
# Loggers

A logger writes the parts of a message with a separator between them and an end behind them. It
may put a lead in front: always the same text, which is left out if it is empty, or the next one of
several texts. A logger that is switched off writes nothing and uses up no lead.
-/

namespace Selectivity

/-- What a logger puts in front of a message. -/
inductive Lead where
  | fixed (text : String)
  | successive (texts : List String)
  deriving DecidableEq, Repr

/-- The lead of the next message, and what is left for later ones. Nothing results if all texts
are used up. -/
def Lead.next? : Lead → Option (List String × Lead)
  | .fixed text => some (if text.isEmpty then [] else [text], .fixed text)
  | .successive [] => none
  | .successive (text :: rest) => some ([text], .successive rest)

/-- The marks between and behind the parts of a message. -/
structure Marks where
  separator : String
  ending : String
  deriving DecidableEq, Repr

/-- Blanks between the parts, each message on a line. -/
def Marks.standard : Marks :=
  ⟨" ", "\n"⟩

def Marks.write (marks : Marks) (parts : List String) : String :=
  String.intercalate marks.separator parts ++ marks.ending

/-- What a logger has written. -/
structure Written where
  text : String
  complete : Bool
  deriving DecidableEq, Repr

/-- Writes several messages behind their leads, until the leads are used up. -/
def writeMessages (marks : Marks) (lead : Lead) : List (List String) → Written
  | [] => ⟨"", true⟩
  | parts :: rest =>
      match lead.next? with
      | none => ⟨"", false⟩
      | some (front, lead) =>
          let written := writeMessages marks lead rest
          ⟨marks.write (front ++ parts) ++ written.text, written.complete⟩

/-- What a logger writes for several messages. -/
def logMessages (enabled : Bool) (marks : Marks) (lead : Lead) (messages : List (List String)) :
    Written :=
  if enabled then writeMessages marks lead messages else ⟨"", true⟩

end Selectivity
