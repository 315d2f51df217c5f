/-!
# Parts of a text

A text is cut at a separator. The parts do not have the separator, and there is one
part more than there are separators.
-/

namespace Dialogue.Text

/-- The parts of a text between separators. -/
def partsAt (separator : Char) : List Char → List (List Char)
  | [] => [[]]
  | c :: rest =>
    if c = separator then [] :: partsAt separator rest
    else
      match partsAt separator rest with
      | [] => [[c]]
      | s :: ss => (c :: s) :: ss

end Dialogue.Text
