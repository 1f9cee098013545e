import SqlDesk.Text.Class

/-!
# Server messages

A server error as it is shown: number and text, followed by advice for the errors that a user can
do something about.
-/

namespace SqlDesk

/-- The page that logs the user out. -/
def logoutPage : String := "index.php?route=/logout"

/-- The page that shows the status of the storage engine. -/
def engineStatusPage : String := "index.php?route=/server/engines/InnoDB/Status"

/-- What is put behind a server error. -/
def advice (number : Int) (text : String) : String :=
  if number = 2002 then
    " - The server is not responding (or the local server's socket is not correctly configured)."
  else if number = 2003 then " - The server is not responding."
  else if number = 1698 then " - Logout and try as another user: " ++ logoutPage
  else if number = 1005 then
    if Text.contains text "errno: 13" then
      " - Please check privileges of directory containing database."
    else " (Details: " ++ engineStatusPage ++ ")"
  else ""

/-- A server error with its number, its text and advice. -/
def formatError (number : Int) (text : String) : String :=
  "#" ++ toString number ++ " - " ++ text ++ advice number text

end SqlDesk
