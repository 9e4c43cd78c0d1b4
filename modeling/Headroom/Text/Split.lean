/-!
# Splitting a text at a separator

Both splits drop the separator itself. They differ only where it occurs more than once.
-/

namespace Headroom.Text

/-- The parts before and after the first occurrence of a separator, if it occurs. -/
def splitFirst? (separator : Char) : List Char → Option (List Char × List Char)
  | [] => none
  | c :: rest =>
      if c = separator then some ([], rest)
      else (splitFirst? separator rest).map fun (before, after) => (c :: before, after)

/-- The parts before and after the last occurrence of a separator, if it occurs. -/
def splitLast? (separator : Char) : List Char → Option (List Char × List Char)
  | [] => none
  | c :: rest =>
      match splitLast? separator rest with
      | some (before, after) => some (c :: before, after)
      | none => if c = separator then some ([], rest) else none

end Headroom.Text
