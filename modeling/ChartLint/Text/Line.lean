/-!
Lines of a document.
-/
namespace ChartLint.Text

/-- The lines of a text. A line ends at a line feed, together with a carriage return right before
it; a last line without a line feed counts unless it is empty. -/
def lines : List Char → List (List Char)
  | [] => []
  | '\n' :: rest => [] :: lines rest
  | '\r' :: '\n' :: rest => [] :: lines rest
  | c :: rest =>
    match lines rest with
    | [] => [[c]]
    | line :: more => (c :: line) :: more

end ChartLint.Text
