/-
  FileLocks/Text/Record.lean
  ==========================
  **Records as text.**

  Values are shown for inspection as a name followed by their fields in braces.
  A record has two layouts: on one line, with the fields separated by commas, and
  indented, with each field on a line of its own and a comma after every one of
  them.  The value of a field is text already.
-/

namespace FileLocks.Text

/-- One named field of a record. -/
structure Field where
  name : String
  value : String

/-- A named record, to be shown for inspection. -/
structure Record where
  name : String
  fields : List Field

/-- A field as both layouts write it. -/
def Field.text (f : Field) : String :=
  f.name ++ ": " ++ f.value

namespace Record

/-- All fields on one line. -/
def oneLine (r : Record) : String :=
  r.name ++ " \x7b " ++ ", ".intercalate (r.fields.map Field.text) ++ " \x7d"

/-- One field a line, four spaces in, with a comma after each of them. -/
def indented (r : Record) : String :=
  r.name ++ " \x7b\n"
    ++ String.join (r.fields.map fun f => "    " ++ f.text ++ ",\n")
    ++ "\x7d"

end Record

/-- A text in double quotes.  The texts shown this way hold neither quotes nor
    backslashes nor control characters, so nothing needs to be escaped. -/
def quoted (s : String) : String :=
  "\"" ++ s ++ "\""

end FileLocks.Text
