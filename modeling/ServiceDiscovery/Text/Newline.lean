/-!
Line breaks in files. A carriage return, alone or in front of a line feed, becomes one line feed.
-/

namespace ServiceDiscovery.Text

/-- Every line break as one line feed. -/
def unifyNewlines : List Char → List Char
  | [] => []
  | '\r' :: '\n' :: rest => '\n' :: unifyNewlines rest
  | c :: rest => (if c = '\r' then '\n' else c) :: unifyNewlines rest

end ServiceDiscovery.Text
