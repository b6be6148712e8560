import CellScript.Json.Write

set_option autoImplicit false

/-! # The schema of configurations

`Config.schema` describes configurations as a JSON schema: their sections, the keys of each, and
what these may be set to. -/

namespace CellScript.Config

open Json

/-- A description. -/
def described (s : String) : Text × Value := field "description" (text s)

/-- A reference to a definition. -/
def reference (name : String) : Text × Value := field "$ref" (text ("#/$defs/" ++ name))

/-- The type of a key that may be left open. -/
def typeOrNull (name : String) : Text × Value :=
  field "type" (.arr [text name, text "null"])

/-- A section: its description and its keys. -/
def sectionSchema (about : String) (keys : List (Text × Value)) : Value :=
  .obj [described about, field "type" (text "object"), field "properties" (.obj keys)]

/-- What the section on notebooks is about. -/
def aboutNotebook : String := "Notebook output configuration"

/-- What the section on scripts is about. -/
def aboutScript : String := "Script reading and writing configuration"

/-- The schema of line endings. -/
def lineEndingSchema : Value :=
  .obj
    [described "Line terminator setting shared by the config file and the command line",
      field "oneOf" (.arr
        [.obj [field "type" (text "string"), field "enum" (.arr [text "lf", text "crlf"])],
          .obj [described "The host platform's terminator", field "type" (text "string"),
            field "const" (text "native")]])]

/-- The schema of the section on notebooks. -/
def notebookSchema : Value :=
  sectionSchema aboutNotebook
    [field "line_ending" (.obj
        [described ("Line terminator inside cell sources: \"native\", \"lf\" or \"crlf\" " ++
            "(default: \"native\")"),
          field "anyOf" (.arr
            [.obj [reference "LineEndingSetting"], .obj [field "type" (text "null")]])]),
      field "template" (.obj
        [described ("JSON file with notebook metadata replacing the bundled Python 3 " ++
            "boilerplate.\nRelative paths are resolved against the directory of the " ++
            "configuration file."),
          typeOrNull "string"])]

/-- The schema of the section on scripts. -/
def scriptSchema : Value :=
  sectionSchema aboutScript
    [field "import" (.obj
        [described "Emit `import <namespace>` at the top of generated scripts (default: true)",
          typeOrNull "boolean"]),
      field "indent" (.obj
        [described "Indentation width of cell bodies in generated scripts (default: 4)",
          typeOrNull "integer", field "format" (text "uint"), field "minimum" (.int 0)]),
      field "namespace" (.obj
        [described ("Module name cell blocks are opened with, as in " ++
            "`with herzog.Cell(\"python\"):` (default: \"herzog\")"),
          typeOrNull "string"])]

/-- The schema of configurations. -/
def schema : Value :=
  .obj
    [field "$schema" (text "https://json-schema.org/draft/2020-12/schema"),
      field "title" (text "Config"), described "Root configuration structure",
      field "type" (text "object"),
      field "properties" (.obj
        [field "notebook" (.obj [described aboutNotebook, reference "NotebookConfig"]),
          field "script" (.obj [described aboutScript, reference "ScriptConfig"])]),
      field "$defs" (.obj
        [field "LineEndingSetting" lineEndingSchema, field "NotebookConfig" notebookSchema,
          field "ScriptConfig" scriptSchema])]

end CellScript.Config
