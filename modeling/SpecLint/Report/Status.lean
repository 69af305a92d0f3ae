import SpecLint.Report.Markup

/-!
# Status lines

A status line tells the user one thing, behind a mark that tells of what kind it is.
-/
namespace SpecLint.Report

/-- The mark of each style; a style nobody knows has none. -/
def statusMark (style : String) : String :=
  match style with
  | "success" => "[green]✓[/green] "
  | "error" => "[red]✗[/red] "
  | "warning" => "[yellow]![/yellow] "
  | "info" => "  "
  | _ => ""

/-- A status line in markup, indented by some columns. -/
def statusLine (message style : String) (indent : Int) : String :=
  String.ofList (List.replicate indent.toNat ' ') ++ statusMark style ++ message

/-- A status line as a plain terminal shows it. -/
def plainStatus (message style : String) : Except MarkupFault String :=
  plain (statusLine message style 0)

end SpecLint.Report
