import Charwise.Unicode.CharacterData
import Charwise.Unicode.Table.Alphabetic
import Charwise.Unicode.Table.Category
import Charwise.Unicode.Table.Lowercase
import Charwise.Unicode.Table.Script
import Charwise.Unicode.Table.Uppercase
import Charwise.Unicode.Table.WhiteSpace

/-!
# The published character data

The character data of the tables. The tables are of different Unicode versions: a character may be
alphabetic in a later version and still unassigned in the earlier one that its general category is
taken from.
-/

namespace Charwise.Unicode

/-- The character data that the tables give. -/
def CharacterData.published : CharacterData where
  category c := Table.category.value c.toNat
  script c := Table.script.value c.toNat
  alphabetic c := Table.alphabetic.contains c.toNat
  uppercase c := Table.uppercase.contains c.toNat
  lowercase c := Table.lowercase.contains c.toNat
  whiteSpace c := Table.whiteSpace.contains c.toNat

end Charwise.Unicode
