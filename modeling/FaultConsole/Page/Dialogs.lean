import FaultConsole.Form.Modal
import FaultConsole.Form.Basic
import FaultConsole.Listing.Choice
import FaultConsole.Page.Markup

/-!
# The dialogs of the page

A closed dialog is not there at all. The dialog for experiments holds both groups of parameters
at all times and hides the one that does not count, so what was typed into it survives.
-/

namespace FaultConsole.Page

open Markup (box line icon)

/-- The class of an input. -/
def inputStyle : String :=
  "w-full px-3 py-2 bg-slate-950 border border-slate-700 rounded-lg text-slate-100 " ++
    "focus:outline-none focus:border-blue-500"

/-- The class of the name of an input. -/
def labelStyle : String := "text-sm text-slate-400"

/-- An input under its name. -/
def labelled (name : List Markup) (input : Markup) : Markup :=
  box "label" "block space-y-1" [box "span" labelStyle name, input]

/-- An input for a line of text. -/
def textInput (name hint : String) : Markup :=
  labelled [.text name]
    (.childless "input" [.value "type" "text", .value "placeholder" hint] inputStyle)

/-- An entry of a dropdown. -/
def option (value label : String) : Markup :=
  .element "option" [.value "value" value] "" [.text label]

/-- A dropdown. -/
def dropdown (name : String) (options : List Markup) : Markup :=
  labelled [.text name] (box "select" inputStyle options)

/-- The control that closes something. -/
def closeControl (size : Nat) (style : String) : Markup := box "button" style [icon "X" size]

/-- The title of a dialog, and the control that closes it. -/
def dialogHeader (title : String) : Markup :=
  box "div" "flex items-center justify-between"
    [line "h2" "text-xl font-semibold text-white" title,
      closeControl 20 "text-slate-500 hover:text-white"]

/-- The controls below a form. Nothing can be sent while a creation is out. -/
def dialogFooter (submitting : Bool) (submit : String) : Markup :=
  box "div" "flex justify-end space-x-3 pt-2"
    [line "button" "px-4 py-2 rounded-lg text-slate-300 hover:bg-slate-800 transition-colors"
        "Cancel",
      .element "button" [.flag "disabled" submitting]
        ("px-4 py-2 bg-blue-600 hover:bg-blue-500 disabled:opacity-50 rounded-lg text-white " ++
          "font-medium transition-colors")
        [.text submit]]

/-- A dialog over the page. -/
def dialog (title submit : String) (submitting : Bool) (fields : List Markup) : Markup :=
  box "div" "fixed inset-0 z-40 flex items-center justify-center bg-black/60"
    [box "div" "w-full max-w-lg bg-slate-900 border border-slate-800 rounded-2xl p-6 space-y-4"
      ([dialogHeader title] ++ fields ++ [dialogFooter submitting submit])]

/-- A group of inputs. -/
def group (isVisible : Bool) (fields : List Markup) : Markup :=
  box "div" ("space-y-4" ++ if isVisible then "" else " hidden") fields

/-- The fields of the experiment form. -/
def experimentFields (form : ExperimentForm) (targets : List Target) : List Markup :=
  [textInput "Name" "payments outage",
    textInput "Description" "",
    dropdown "Type" (Kind.selectable.map fun k => option k.name k.label),
    dropdown "Target"
      (option "" "Select a target" ::
        (targetChoices targets).map fun c => option c.value c.label),
    labelled [.text "Duration (seconds)"]
      (.childless "input" [.value "type" "number", .value "min" "1"] inputStyle),
    group form.showsExternal
      [textInput "Endpoint" "http://service/chaos",
        textInput "Auth token" "optional",
        textInput "Cleanup endpoint" "optional"],
    group (!form.showsExternal)
      [textInput "Namespace" "default",
        labelled
          [.text "Percentage: ", .text (toString form.workload.percentage), .text "%"]
          (.childless "input"
            [.value "type" "range", .value "min" "0", .value "max" "100"] "w-full")]]

/-- The dialog for a new experiment. -/
def experimentDialog (submitting : Bool) (targets : List Target) (m : Modal ExperimentForm) :
    List Markup :=
  if m.isOpen then
    [dialog "New Experiment" "Create Experiment" submitting (experimentFields m.form targets)]
  else []

/-- The dialog for a new target. -/
def targetDialog (submitting : Bool) (m : Modal TargetForm) : List Markup :=
  if m.isOpen then
    [dialog "New Target" "Create Target" submitting
      [textInput "Name" "web frontend",
        textInput "Description" "",
        dropdown "Type" (targetKinds.map fun k => option k k),
        textInput "Namespace" "default",
        textInput "Selector" "app=web"]]
  else []

end FaultConsole.Page
