import SqlDesk.Text.Numeral
import SqlDesk.Value.Show

/-!
# Server versions

A version text starts with `major`, `major.minor` or `major.minor.patch` after optional white space;
whatever follows is ignored. The three numbers are packed into one integer that orders versions as
their triples are ordered while minor and patch stay below one hundred.
-/

namespace SqlDesk

open Text

/-- The oldest version that is supported without a warning. -/
def minimumVersion : Int := 50500

/-- The text that marks a MariaDB server. -/
def mariadbMarker : String := "MariaDB"

/-- The text that marks a Percona server. -/
def perconaMarker : String := "Percona"

/-- The digit runs at the start of a version text: the major one and up to two more behind points. -/
def versionGroups (cs : List Char) : Option (List Char × List Char × List Char) :=
  let (major, rest) := spanDigits (cs.dropWhile isBlank)
  if major = [] then none
  else
    let group : List Char → List Char × List Char
      | '.' :: ds => if (spanDigits ds).1 = [] then ([], '.' :: ds) else spanDigits ds
      | ds => ([], ds)
    let (minor, rest) := group rest
    let (patch, _) := group rest
    some (major, minor, patch)

/-- A version text as one integer, zero without a leading number. -/
def versionNumber (version : String) : Except Fault Int :=
  match versionGroups version.toList with
  | none => .ok 0
  | some (major, minor, patch) => do
    let a ← readDigits major
    let b ← readDigits minor
    let c ← readDigits patch
    return a * 10000 + b * 100 + c

def majorOf (version : Int) : Int := version / 10000

/-- Whether a packed version is below the supported minimum. -/
def needsUpgrade (version : Int) : Bool := version < minimumVersion

/-- The number of a version text, its major version and whether it is below the supported minimum. -/
def parseVersion (version : String) : Except Fault (Int × Int × Bool) :=
  (fun n => (n, majorOf n, needsUpgrade n)) <$> versionNumber version

/-- Whether a version and its comment name MariaDB, and whether they name Percona and not MariaDB. -/
def detectVendor (version comment : String) : Bool × Bool :=
  let text := version ++ " " ++ comment
  let mariadb := contains text mariadbMarker
  (mariadb, !mariadb && contains text perconaMarker)

/-- What is known about a server's version. -/
structure ServerVersion where
  number : Int
  text : String
  comment : Value := .text ""
  isMariadb : Bool := false
  isPercona : Bool := false

namespace ServerVersion

def major (v : ServerVersion) : Int := majorOf v.number

/-- Whether the server is older than the supported minimum. -/
def isUpgradeRequired (v : ServerVersion) : Bool := needsUpgrade v.number

/-- The text of a comment for vendor detection. -/
def commentText : Value → String
  | .text s => s
  | v => if v.truthy then v.plain else ""

/-- The facts by name. -/
def record (v : ServerVersion) : Row :=
  .ofFacts
    [("version_int", .int v.number), ("version_string", .text v.text),
      ("version_comment", v.comment), ("is_mariadb", .bool v.isMariadb),
      ("is_percona", .bool v.isPercona), ("major", .int v.major),
      ("is_upgrade_required", .bool v.isUpgradeRequired)]

/-- The version facts of a version text and its comment. -/
def parse (version : String) (comment : Value := .text "") : Except Fault ServerVersion := do
  let vendor := detectVendor version (commentText comment)
  let number ← versionNumber version
  return { number, text := version, comment, isMariadb := vendor.1, isPercona := vendor.2 }

/-- The version assumed until the server reports its own. -/
def assumed : ServerVersion := { number := 55000, text := "5.50.0" }

/-- The version text of a row: text, or bytes that are read as text. -/
def rowText : Value → Option String
  | .text s => some s
  | .bytes bs => some (decodeLossy bs)
  | _ => none

/-- The comment of a row as text. -/
def rowComment (v : Value) : String :=
  match v.orElse (.text "") with
  | .bytes bs => decodeLossy bs
  | v => v.plain

/-- The version facts of a version row; `none` if the row is unusable. -/
def ofRow (row : Value) : Except Fault (Option ServerVersion) :=
  match row with
  | .map es =>
    match rowText (Row.column es "@@version") with
    | none => .ok none
    | some version =>
      if (versionGroups version.toList).isNone then .ok none
      else some <$> parse version (.text (rowComment (Row.column es "@@version_comment")))
  | _ => .ok none

end ServerVersion

end SqlDesk
