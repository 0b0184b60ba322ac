/-!
# HTML escaping

The five characters with a meaning in HTML are written as entities; every other character is
itself, so escaping can be undone.
-/

namespace Stepwise.Text

def escapeChar : Char → List Char
  | '&' => ['&', 'a', 'm', 'p', ';']
  | '<' => ['&', 'l', 't', ';']
  | '>' => ['&', 'g', 't', ';']
  | '\'' => ['&', '#', '3', '9', ';']
  | '"' => ['&', '#', '3', '4', ';']
  | c => [c]

def escapeChars (s : List Char) : List Char := s.flatMap escapeChar

/-- A text with the characters that mean something in HTML escaped. -/
def escapeHtml (s : String) : String := String.ofList (escapeChars s.toList)

end Stepwise.Text
