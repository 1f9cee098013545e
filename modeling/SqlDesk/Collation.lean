/-!
# Character sets and collations

Servers up to 5.5.3 know no `utf8mb4`; names that start with it are replaced for them.
-/

namespace SqlDesk

/-- The last version without `utf8mb4`. -/
def utf8mb4UnknownUntil : Int := 50503

/-- A name that servers up to a version do not understand, by its start, and what replaces that. -/
structure CollationSubstitution where
  highest : Int
  start : String
  replacement : String

/-- The substitutions, tried in order. -/
def collationSubstitutions : List CollationSubstitution :=
  [⟨utf8mb4UnknownUntil, "utf8mb4_", "utf8_"⟩]

/-- The collation name that the server of a version understands. -/
def resolveCollation (collation : String) (version : Int) : String :=
  match collationSubstitutions.find? fun s =>
      version ≤ s.highest && s.start.toList.isPrefixOf collation.toList with
  | some s => s.replacement ++ String.ofList (collation.toList.drop s.start.length)
  | none => collation

/-- The character set and collation of a fresh connection. -/
def defaultCharset (version : Int) : String × String :=
  if utf8mb4UnknownUntil < version then ("utf8mb4", "utf8mb4_general_ci")
  else ("utf8", "utf8_general_ci")

end SqlDesk
