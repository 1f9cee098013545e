/-!
# Placeholders

Statements are written with `?` for a parameter and sent to a client that formats them with `%s`.
Outside quotes a question mark becomes a conversion; a percent sign is doubled everywhere, except
right behind a backslash inside quotes, where the character is copied.
-/

namespace SqlDesk.Sql

/-- A character that opens a quoted section, which the same character closes. -/
def opensQuote (c : Char) : Bool := c == '\'' || c == '"' || c == '\x60'

/-- One character as a format text shows it. -/
def formatChar (c : Char) : List Char := if c = '%' then ['%', '%'] else [c]

mutual

def convertPlain : List Char → List Char
  | [] => []
  | c :: cs =>
    if opensQuote c then c :: convertQuoted c cs
    else if c = '?' then '%' :: 's' :: convertPlain cs
    else formatChar c ++ convertPlain cs

/-- Convert a text inside a section that `q` closes. -/
def convertQuoted (q : Char) : List Char → List Char
  | [] => []
  | c :: cs =>
    if c = '\\' then
      match cs with
      | [] => [c]
      | d :: cs => c :: d :: convertQuoted q cs
    else if c = q then formatChar c ++ convertPlain cs
    else formatChar c ++ convertQuoted q cs

end

/-- The statement with its placeholders in the client's style. -/
def convertPlaceholders (sql : String) : String := String.ofList (convertPlain sql.toList)

end SqlDesk.Sql
