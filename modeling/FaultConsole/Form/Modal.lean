/-!
# Modal dialogs

A dialog is open or closed and hosts a form. Closing it keeps what was typed; only a submission
that succeeded closes it and starts the form afresh.
-/

namespace FaultConsole

/-- A dialog with a form. -/
structure Modal (Form : Type) where
  isOpen : Bool := false
  form : Form
deriving Repr, DecidableEq

namespace Modal

variable {Form : Type}

/-- A closed dialog with a new form. -/
def new [Inhabited Form] : Modal Form := { form := default }

/-- The dialog, open. -/
def reveal (m : Modal Form) : Modal Form := { m with isOpen := true }

/-- The dialog, closed, with its form as it was. -/
def hide (m : Modal Form) : Modal Form := { m with isOpen := false }

/-- The dialog with its form changed. -/
def edit (change : Form → Form) (m : Modal Form) : Modal Form := { m with form := change m.form }

/-- The dialog after a submission: closed with a new form if it succeeded, else unchanged. -/
def settle [Inhabited Form] (succeeded : Bool) (m : Modal Form) : Modal Form :=
  if succeeded then new else m

end Modal

end FaultConsole
