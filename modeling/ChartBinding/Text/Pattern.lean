/-!
# Patterns of text

A pattern is a list of parts, and a text fits it if it can be cut into pieces, one for each part and
in their order. A part is a choice of words or a stretch of text on one line.

A text may be cut in several ways. The first part then has the say: of its words the earliest counts
with which the rest of the text still fits the rest of the pattern, and of its stretches the
shortest. What it leaves open is settled by the second part, and so on.
-/

namespace ChartBinding.Text

inductive Part where
  /-- One of some words; an earlier one is preferred. -/
  | oneOf (words : List (List Char))
  /-- Any characters but a line feed; fewer are preferred. -/
  | line

abbrev Pattern := List Part

/-- The shortest stretch at the head of a text, on one line, behind which `fits` has an answer, and
that answer. -/
def shortest {α : Type} (fits : List Char → Option α) : List Char → Option (List Char × α)
  | [] => (fits []).map fun a => ([], a)
  | c :: cs =>
    match fits (c :: cs) with
    | some a => some ([], a)
    | none => if c = '\n' then none else (shortest fits cs).map fun r => (c :: r.1, r.2)

/-- The pieces into which a pattern cuts a whole text, one for each part. -/
def Pattern.pieces? : Pattern → List Char → Option (List (List Char))
  | [], cs => if cs.isEmpty then some [] else none
  | .oneOf words :: rest, cs =>
    words.findSome? fun w =>
      (w.isPrefixOf? cs).bind fun behind => (pieces? rest behind).map (w :: ·)
  | .line :: rest, cs => (shortest (pieces? rest) cs).map fun r => r.1 :: r.2

end ChartBinding.Text
