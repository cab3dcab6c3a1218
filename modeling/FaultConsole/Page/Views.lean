import FaultConsole.Dashboard.Basic
import FaultConsole.Listing.Detail
import FaultConsole.Listing.Summary
import FaultConsole.Page.Dialogs
import FaultConsole.Page.Tables

/-!
# The whole page

The menu, the active view, and over them the dialogs, the record that is shown in full, and the
notices. The page is a function of the dashboard's state and of nothing else, but for the zone
of the viewer and the debug switch.
-/

namespace FaultConsole.Page

open Markup (box line icon)

/-- The heading of a view. -/
def heading (text : String) : Markup := line "h1" "text-3xl font-bold text-white" text

/-- The control that opens a dialog. -/
def openControl (text : String) : Markup :=
  box "button"
    ("flex items-center space-x-2 px-4 py-2 bg-blue-600 hover:bg-blue-500 rounded-lg " ++
      "text-white font-medium transition-colors")
    [icon "Plus" 18, line "span" "" text]

/-- A heading with a control beside it. -/
def headingWith (text control : String) : Markup :=
  box "div" "flex items-center justify-between" [heading text, openControl control]

/-! ## Views -/

/-- A number with its name. -/
def statCard (name drawing : String) (count : Nat) : Markup :=
  box "div" "bg-slate-900 border border-slate-800 rounded-xl p-6 flex items-center space-x-4"
    [box "div" "p-3 bg-slate-800 rounded-lg" [icon drawing 24],
      box "div" ""
        [line "p" "text-sm text-slate-400" name,
          line "p" "text-2xl font-bold text-white" (toString count)]]

/-- Counts and the newest experiments. -/
def overview (zone : Time.Zone) (recent : Panel Experiment) : Markup :=
  let s := Summary.ofExperiments recent.items
  box "div" "space-y-6"
    [headingWith "Dashboard Overview" "New Experiment",
      box "div" "grid grid-cols-1 md:grid-cols-4 gap-6"
        [statCard "Total Experiments" "FlaskConical" s.total,
          statCard "Active" "Activity" s.running,
          statCard "Successful" "CircleCheck" s.completed,
          statCard "Failed" "CircleX" s.failed],
      box "div" "space-y-4"
        [line "h2" "text-xl font-semibold text-white" "Recent Experiments",
          experimentTable zone .recent recent]]

/-- The view without content so far. -/
def resultsView : Markup :=
  box "div" "space-y-6"
    [heading "Results",
      box "div"
        ("bg-slate-900 border border-slate-800 rounded-xl p-10 flex flex-col items-center " ++
          "space-y-3 text-slate-400")
        [icon "TriangleAlert" 32, line "p" "" "Experiment results are not available yet."]]

/-- The debug switch. -/
def settingsView (debug : Bool) : Markup :=
  box "div" "space-y-6"
    [heading "Settings",
      box "div" "bg-slate-900 border border-slate-800 rounded-2xl p-6 space-y-6"
        [box "div" "flex items-center justify-between"
          [box "div" ""
              [line "h3" "text-lg font-medium text-white" "Debug Logs",
                line "p" "text-sm text-slate-400"
                  ("Log every API request to the browser console. Requires page reload.")],
            box "button"
              ("w-12 h-6 rounded-full transition-colors relative " ++
                if debug then "bg-blue-600" else "bg-slate-700")
              [box "div"
                ("absolute top-1 left-1 w-4 h-4 bg-white rounded-full transition-transform " ++
                  if debug then "translate-x-6" else "")
                []]]]]

/-- The content of the active view. -/
def activeView (zone : Time.Zone) (debug : Bool) (d : Dashboard) : Markup :=
  match d.router.active with
  | .dashboard => overview zone d.recent
  | .experiments =>
    box "div" "space-y-6"
      [headingWith "Experiments" "New Experiment", experimentTable zone .full d.experiments]
  | .targets =>
    box "div" "space-y-6" [headingWith "Targets" "New Target", targetTable zone d.targets]
  | .results => resultsView
  | .settings => settingsView debug

/-! ## Over the view -/

/-- The title, the fields and the parameters of a record that is shown in full. -/
def detailContent (zone : Time.Zone) : Detail → String × List LabelledText × List LabelledText
  | .experiment e => ("Experiment", e.fields zone, parameterFields e.parameters)
  | .target t => ("Target", t.fields zone, [])

/-- The parameters of a record, if it has any. -/
def parameterSection (parameters : List LabelledText) : List Markup :=
  if parameters.isEmpty then []
  else
    [box "div" "space-y-3"
      [line "h3" "text-sm font-semibold text-slate-300" "Parameters",
        box "dl" "space-y-2" (parameters.map fun (name, text) =>
          box "div" "flex justify-between text-sm"
            [line "dt" "text-slate-500 font-mono" name,
              line "dd" "text-slate-200 font-mono break-all" text])]]

/-- The record that is shown in full. -/
def detailPanel (zone : Time.Zone) (detail : Detail) : Markup :=
  let (title, fields, parameters) := detailContent zone detail
  box "div" "fixed inset-0 z-40 flex justify-end bg-black/50"
    [box "aside"
      ("w-full max-w-md h-full bg-slate-900 border-l border-slate-800 p-6 space-y-6 " ++
        "overflow-auto")
      ([dialogHeader title,
          box "dl" "space-y-3" (fields.map fun (name, text) =>
            box "div" ""
              [line "dt" "text-xs uppercase tracking-wide text-slate-500" name,
                line "dd" "text-slate-200 break-all" text])] ++
        parameterSection parameters)]

/-- The class of a tone. -/
def toneStyle : Tone → String
  | .success => "border-green-600/50 text-green-300"
  | .warning => "border-amber-600/50 text-amber-300"
  | .error => "border-red-600/50 text-red-300"

/-- A notice with the control that closes it. -/
def noticeCard (n : Notice) : Markup :=
  box "div"
    ("flex items-start justify-between p-4 rounded-xl bg-slate-900 border shadow-lg " ++
      toneStyle n.tone)
    [line "p" "text-sm" n.message, closeControl 16 "ml-4 text-slate-500 hover:text-white"]

/-- The notices on show. -/
def noticeList (notices : List (Nat × Notice)) : Markup :=
  box "div" "fixed bottom-6 right-6 z-50 space-y-2 w-96" (notices.map fun (_, n) => noticeCard n)

/-! ## The menu and the frame -/

/-- The drawing of a view. -/
def viewDrawing : View → String
  | .dashboard => "LayoutDashboard"
  | .experiments => "FlaskConical"
  | .targets => "Crosshair"
  | .results => "ChartColumn"
  | .settings => "Settings"

/-- The entry of a view in the menu; that of the active view stands out. -/
def menuEntry (active v : View) : Markup :=
  box "button"
    ("w-full flex items-center space-x-3 px-4 py-3 rounded-xl transition-all duration-200 group " ++
      if active = v then "bg-slate-800 text-white"
      else "text-slate-400 hover:bg-slate-800 hover:text-white")
    [box "div" "group-hover:text-blue-400 transition-colors" [icon (viewDrawing v) 20],
      line "span" "font-medium" v.title]

/-- The menu. The settings stand apart at its end. -/
def menu (active : View) : Markup :=
  box "nav" "w-64 border-r border-slate-800 flex flex-col p-4 bg-slate-900/50"
    [box "div" "flex items-center space-x-3 px-2 py-6 mb-6"
        [box "div" "p-2 bg-orange-600 rounded-lg shadow-lg shadow-orange-900/20" [icon "Zap" 24],
          line "span" "text-2xl font-bold tracking-tight text-white" "ChaosDash"],
      box "div" "space-y-1" ((View.all.filter (· ≠ .settings)).map (menuEntry active)),
      box "div" "mt-auto" [menuEntry active .settings]]

end Page

/-- The page, for a viewer in a zone. -/
def Dashboard.page (zone : Time.Zone) (debug : Bool) (d : Dashboard) : Markup :=
  .box "div" "flex h-screen bg-slate-950 text-slate-100 font-sans"
    ([Page.menu d.router.active,
        .box "main" "flex-grow overflow-auto p-8" [Page.activeView zone debug d]] ++
      Page.experimentDialog d.submitting d.targetChoices d.experimentModal ++
      Page.targetDialog d.submitting d.targetModal ++
      (d.detail.map (Page.detailPanel zone)).toList ++
      [Page.noticeList d.notices])

end FaultConsole
