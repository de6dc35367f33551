/-!
# Line breaks

A line ends with a line feed, a carriage return, or both in this order. A text
whose lines all end with a line feed is uniform.
-/

set_option autoImplicit false

namespace CodeLayout

/-- A text with every line break as a line feed. -/
def uniformLines : List Char → List Char
  | [] => []
  | '\r' :: '\n' :: rest => '\n' :: uniformLines rest
  | '\r' :: rest => '\n' :: uniformLines rest
  | first :: rest => first :: uniformLines rest

end CodeLayout
