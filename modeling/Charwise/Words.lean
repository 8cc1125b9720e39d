/-!
# Names made of words

The two ways of writing a name that consists of several words.
-/

namespace Charwise

/-- The words in small letters, joined by underscores. -/
def snakeCase (words : List String) : String :=
  "_".intercalate words

/-- The words run together, each with a capital letter in front. -/
def pascalCase (words : List String) : String :=
  String.join (words.map String.capitalize)

end Charwise
