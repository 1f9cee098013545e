/-!
# Statements about a connection

The statements that set a connection up and that ask for facts about the server and the login. A
character set, a collation and a locale that are set here are plain identifiers.
-/

namespace SqlDesk.Sql

def version : String := "SELECT @@version, @@version_comment"

/-- Ask for the login. -/
def currentUser : String := "SELECT CURRENT_USER();"

/-- Ask for the directory of the server's installation. -/
def baseDirectory : String := "SELECT @@basedir"

/-- Ask whether names of tables keep their case. -/
def lowerCaseNames : String := "SELECT @@lower_case_table_names"

def databaseCollation : String := "SELECT @@collation_database"

def serverCollation : String := "SELECT @@collation_server"

/-- Set the character set of the connection. -/
def setNames (charset collation : String) : String :=
  "SET NAMES '" ++ charset ++ "' COLLATE '" ++ collation ++ "';"

def setLocale (locale : String) : String := "SET lc_messages = '" ++ locale ++ "';"

/-- Set the time zone of the session, given as a literal. -/
def setTimeZone (zone : String) : String := "SET `time_zone` = " ++ zone ++ ";"

/-- Set the collation of the connection, given as a literal. -/
def setCollation (collation : String) : String := "SET collation_connection = " ++ collation ++ ";"

end SqlDesk.Sql
