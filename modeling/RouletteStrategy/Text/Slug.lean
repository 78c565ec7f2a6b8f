import RouletteStrategy.Text.Lower
import RouletteStrategy.Text.Split

/-! # Slugs: runs of ASCII letters and digits joined by single hyphens -/

namespace RouletteStrategy.Text

def isSlugChar (c : Char) : Bool :=
  ('a' ≤ c && c ≤ 'z') || ('0' ≤ c && c ≤ '9')

/-- The non-empty runs of slug characters in the lower case of a text. -/
def slugRuns (s : String) : List (List Char) :=
  (splitWhen (!isSlugChar ·) (lower s).toList).filter (!·.isEmpty)

def slug (s : String) : String :=
  String.ofList (['-'].intercalate (slugRuns s))

end RouletteStrategy.Text
