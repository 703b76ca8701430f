import SchemaForge.Language.Basic
import SchemaForge.Path

/-! What commands print: lines of keys and values, headings and items. -/

namespace SchemaForge.Cli

inductive ReportLine where
  | heading (text : String)
  | entry (key value : String)
  | planned (text : String)
  | added (text : String)
  | blank
deriving Repr, DecidableEq

def ReportLine.text : ReportLine → String
  | heading s => s ++ ":"
  | entry key value => key ++ ": " ++ value
  | planned s => "  - " ++ s
  | added s => "  + " ++ s
  | blank => ""

def reportText (lines : List ReportLine) : String :=
  String.join (lines.map fun l => l.text ++ "\n")

structure GenerateReport where
  language : String
  rootNamespace : String
  outputDir : Path
  files : List Path
  dryRun : Bool
deriving Repr, DecidableEq

namespace GenerateReport

def relative (r : GenerateReport) (file : Path) : String :=
  match file.relativeTo? r.outputDir with
  | some components => Path.display components
  | none => file.text

def lines (r : GenerateReport) : List ReportLine :=
  let head := [
    .entry "Language" r.language,
    .entry "Root namespace" r.rootNamespace,
    .entry "Output" r.outputDir.text,
    .blank]
  let count := "(" ++ toString r.files.length ++ ")"
  let body :=
    if r.files.isEmpty then [.heading "Nothing to generate"]
    else if r.dryRun then
      .heading ("Would generate " ++ count) :: r.files.map fun f => .planned (r.relative f)
    else .heading ("Generated " ++ count) :: r.files.map fun f => .added (r.relative f)
  head ++ body

end GenerateReport

def languageLines (l : Language) : List ReportLine :=
  let stems (templates : List (String × String)) := Text.joinStrings ", " (templates.map (·.1))
  [ .heading l.name,
    .entry "  extension" l.rules.language.extension,
    .entry "  namespace files" (if l.rules.namespaceTypesDefault then "yes" else "no"),
    .entry "  templates" (stems l.plugin.templates) ]
    ++ if l.plugin.supportTemplates.isEmpty then []
      else [.entry "  support" (stems l.plugin.supportTemplates)]

def languagesLines : List Language → List ReportLine
  | [] => []
  | [l] => languageLines l
  | l :: rest => languageLines l ++ .blank :: languagesLines rest

end SchemaForge.Cli
