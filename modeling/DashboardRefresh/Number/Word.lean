/-!
# Words

The bounds of whole numbers of 64 bits.
-/

namespace DashboardRefresh.Word

/-- Words without a sign lie below 2^64. -/
abbrev unsignedLimit : Nat := 18446744073709551616

/-- Words with a sign lie below 2^63, and not below its negation. -/
abbrev signedLimit : Nat := 9223372036854775808

end DashboardRefresh.Word
