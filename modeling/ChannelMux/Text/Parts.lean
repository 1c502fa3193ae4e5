/-!
Texts cut into parts.
-/
namespace ChannelMux.Text

/-- The parts between separators. There is always one. -/
def splitOn (separator : Char) (cs : List Char) : List (List Char) :=
  cs.foldr (fun c parts =>
    if c = separator then [] :: parts
    else match parts with
      | part :: rest => (c :: part) :: rest
      | [] => [[c]]) [[]]

end ChannelMux.Text
