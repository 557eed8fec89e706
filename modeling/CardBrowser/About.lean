import CardBrowser.Database.Fault
import CardBrowser.Search.Native

/-!
# About the program

What the program says about itself.
-/

namespace CardBrowser.About

/-- The name of the program. -/
def name : String := "advbrowse"

/-- The version of the program. -/
def version : String := "0.1.0"

/-- The version of the database schema that it writes. -/
def schemaVersion : Int := Database.supportedVersion

/-- The order in which cards are listed by default. -/
def defaultOrder : String := Search.defaultOrder

/-- The tables of cards and of notes. -/
def tables : List String := ["cards", "notes"]

end CardBrowser.About
