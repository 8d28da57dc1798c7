/-! # Splitting text -/

namespace Compositor.Text

/-- The pieces of a text between occurrences of a character. -/
def splitOn (mark : Char) (cs : List Char) : List (List Char) :=
  cs.foldr
    (fun c pieces =>
      if c == mark then [] :: pieces
      else
        match pieces with
        | [] => [[c]]
        | p :: ps => (c :: p) :: ps)
    [[]]

end Compositor.Text
