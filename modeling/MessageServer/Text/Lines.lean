/-!
# Lines

A line ends with a line feed; a carriage return right in front of that belongs to the end.
-/

namespace MessageServer.Text

/-- The first line of a text, without its end. -/
def firstLine (s : String) : String :=
  let line := s.toList.takeWhile (· != '\n')
  if line.length < s.length ∧ line.getLast? = some '\r' then String.ofList line.dropLast
  else String.ofList line

end MessageServer.Text
