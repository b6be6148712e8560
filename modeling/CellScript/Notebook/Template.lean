import CellScript.Notebook.Error

set_option autoImplicit false

/-! # Templates

A template is what a notebook has besides its cells. `Template.python3` is the one that is used
unless another is given. -/

namespace CellScript.Template

open Json

/-- Read a template; what it says about cells is left out. -/
def ofText (t : Text) : Except DocumentError (Table Value) :=
  match Value.read t with
  | .error f => .error (.template f)
  | .ok v =>
    match v.fields? with
    | some fs => .ok (fs.erase Notebook.cellsField)
    | none => .error .templateNotObject

/-- The template of a notebook that Python 3 runs. -/
def python3 : Table Value :=
  [field "metadata" (.obj
    [field "kernelspec" (.obj
      [field "display_name" (text "Python 3"), field "language" (text "python"),
        field "name" (text "python3")]),
    field "language_info" (.obj
      [field "codemirror_mode" (.obj [field "name" (text "ipython"), field "version" (.int 3)]),
        field "file_extension" (text ".py"), field "mimetype" (text "text/x-python"),
        field "name" (text "python"), field "nbconvert_exporter" (text "python"),
        field "pygments_lexer" (text "ipython3"), field "version" (text "3.7.3")])]),
  field "nbformat" (.int 4), field "nbformat_minor" (.int 2)]

end CellScript.Template
