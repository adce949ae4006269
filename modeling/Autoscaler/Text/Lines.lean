import Autoscaler.Text.Basic

/-!
# Lines

Line ends of texts that come from elsewhere: `unifyLineEnds` puts a line feed for each of them.
-/

namespace Autoscaler

namespace Text

/-- A text in which every line ends in a line feed alone. -/
def unifyLineEnds : Text → Text
  | '\r' :: '\n' :: s => '\n' :: unifyLineEnds s
  | '\r' :: s => '\n' :: unifyLineEnds s
  | c :: s => c :: unifyLineEnds s
  | [] => []

end Text

end Autoscaler
