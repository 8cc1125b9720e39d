import Charwise.Unicode.CodeTable

/-!
# White space

The code points with the property White_Space, as of Unicode 17.0.
-/

set_option maxRecDepth 100000

namespace Charwise.Unicode.Table

/-- The white-space code points. -/
def whiteSpace : CodeSet where
  boundaries := #[
    0x0009, 0x000E, 0x0020, 0x0021, 0x0085, 0x0086, 0x00A0, 0x00A1, 0x1680, 0x1681, 0x2000,
    0x200B, 0x2028, 0x202A, 0x202F, 0x2030, 0x205F, 0x2060, 0x3000, 0x3001]

end Charwise.Unicode.Table
