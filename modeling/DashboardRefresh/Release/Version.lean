import DashboardRefresh.Text.Lowercase
import DashboardRefresh.Text.Whitespace

/-!
# Versions

The version that the tag of a release stands for: without blanks at its ends, in lower case, and
with a `v` in front.
-/

namespace DashboardRefresh

/-- The characters of the version of a tag. -/
def versionChars (tag : List Char) : List Char :=
  match Text.lowerChars (Text.trimChars tag) with
  | [] => []
  | 'v' :: cs => 'v' :: cs
  | cs => 'v' :: cs

def versionOfTag (tag : String) : String := String.ofList (versionChars tag.toList)

end DashboardRefresh
