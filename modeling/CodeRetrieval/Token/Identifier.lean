/-
# CodeRetrieval.Token.Identifier — identifiers cut where their case changes.

A part is a capital with the small letters behind it, a run of small letters, or a run of capitals.
A run of capitals that something follows leaves its last capital to the next part, so `HTTPServer`
has the parts `HTTP` and `Server`.  Letters here are the ASCII letters; all other characters belong to
no part.
-/
import CodeRetrieval.Text.Basic

namespace CodeRetrieval.Identifier

/-- An ASCII capital. -/
def isCapital (c : Char) : Bool := 'A' ≤ c && c ≤ 'Z'

/-- An ASCII small letter. -/
def isSmall (c : Char) : Bool := 'a' ≤ c && c ≤ 'z'

/-- Whether a text starts with a small letter. -/
def startsSmall : Text → Bool
  | [] => false
  | c :: _ => isSmall c

/-- The parts of a word, from the left. -/
def parts : Text → List Text
  | [] => []
  | c :: rest =>
    if isSmall c || (isCapital c && startsSmall rest) then
      (c :: rest.takeWhile isSmall) :: parts (rest.dropWhile isSmall)
    else if isCapital c then
      let capitals := rest.takeWhile isCapital
      if capitals.length = rest.length then [c :: capitals]
      else if capitals.length = 0 then parts rest
      else (c :: capitals.dropLast) :: parts (rest.drop (capitals.length - 1))
    else parts rest
termination_by word => word.length
decreasing_by
  all_goals simp only [List.length_cons, List.length_drop]
  · exact Nat.lt_succ_of_le (List.dropWhile_suffix isSmall).length_le
  · omega
  · omega
  · omega

end CodeRetrieval.Identifier
