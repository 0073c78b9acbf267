import CodeMetrics.Command.Arguments
import CodeMetrics.Command.ReportJson
import CodeMetrics.Files.SourceTree

/-! Carrying out commands on a volume. -/

namespace CodeMetrics

inductive Printed where
  | lines (lines : List String)
  | report (report : ScanReport) (format : ReportFormat) (top : Nat)

def Printed.display (elapsed : Elapsed) : Printed → List String
  | .lines printed => printed
  | .report scanned .text top => scanned.lines elapsed.display top
  | .report scanned .json _ => [(scanned.json elapsed).display]

structure CommandResult where
  printed : Printed := .lines []
  /-- Why the command failed and what caused it, outermost first; empty if it did not fail. -/
  failure : List String := []

def CommandResult.exitCode (result : CommandResult) : Nat :=
  if result.failure.isEmpty then 0 else 1

def CommandResult.failureLines (result : CommandResult) : List String :=
  match result.failure with
  | [] => []
  | [error] => ["Error: " ++ error]
  | [error, cause] => ["Error: " ++ error, "", "Caused by:", "    " ++ cause]
  | error :: causes =>
    ["Error: " ++ error, "", "Caused by:"] ++
      causes.mapIdx fun position cause => "    " ++ toString position ++ ": " ++ cause

namespace Command

def failureOf : ScanOutcome → List String
  | .cancelled => ["Scan cancelled"]
  | .failed => ["Scan stopped at the first parse error"]
  | .succeeded | .completedWithErrors => []

def countPackages (model : Model) : Except ModelError Model :=
  ((model.index.select [Query.ofKind .package]).filterMap Entity.id?).foldlM
    (fun model id => model.setMeasure id StandardMetric.packages.metric 1.0) model

def scannerFor (volume : Volume) (directory : List String) (settings : Settings) :
    Scanner Unit SourceFile where
  parse path host := (volume.readSource directory none path, host)
  visitors := [Visitor.lineMetrics Unit settings.threshold, Visitor.complexity Unit]
  filesMetric? := some StandardMetric.files.metric
  failFast := settings.scan.failFast
  groupByDirectory := settings.scan.groupByDirectory

/-- The settings of a directory, with those of the command line in place of its own. -/
def settingsFor (volume : Volume) (directory : List String) (options : ScanOptions) : Settings :=
  let settings := Settings.loadOrDefault volume directory
  let scan := { settings.scan with failFast := options.failFast || settings.scan.failFast }
  { settings with scan, threshold := options.threshold?.getD settings.threshold }

def scanDirectory (volume : Volume) (directory : List String) (options : ScanOptions) :
    CommandResult :=
  let settings := settingsFor volume directory options
  match settings.exclude.rules with
  | .error _ => { failure := ["Invalid [exclude] patterns"] }
  | .ok exclude =>
    let files := volume.sourceFiles exclude directory
    let project := Model.ofKey (directory.getLast?.getD "/")
    let run := (scannerFor volume directory settings).scan files project ()
    match run.result with
    | .error error => { failure := ["Scan aborted", error.message] }
    | .ok summary =>
      match countPackages run.model with
      | .error error => { failure := [error.message] }
      | .ok model =>
        let decorated := model.decorate (StandardMetric.all.map StandardMetric.metric)
        { printed := .report (ScanReport.ofModel decorated summary) options.format options.top,
          failure := failureOf summary.outcome }

def runScan (volume : Volume) (current : List String) (options : ScanOptions) : CommandResult :=
  match volume.resolve current ⟨options.path⟩ with
  | .error error => { failure := ["Path does not exist: " ++ options.path, error.message] }
  | .ok place =>
    if volume.isDirectory place then scanDirectory volume place options
    else { failure := ["Not a directory: " ++ Volume.display place] }

/-- The language to classify by: the one that is asked for, that of the file, or C. -/
def languageFor (options : ClassifyOptions) : Except String Language :=
  match options.language? with
  | some ending =>
    match Language.ofExtension? (String.ofList (ending.toList.dropWhile (· == '.'))) with
    | some language => .ok language
    | none => .error ("Unknown language extension: " ++ ending)
  | none => .ok (((options.file?.map Path.mk).bind Language.ofPath?).getD .c)

def classifiedLine (recognizer : Recognizer) (number : Nat) (line : List Char) : String :=
  let verdict := if recognizer.isCode line then "code " else "prose"
  ScanReport.padLeft 5 (toString number) ++ " " ++ Decimal.fixed 3 (recognizer.recognition line) ++
    " " ++ verdict ++ " " ++ String.ofList line

def classifyText (options : ClassifyOptions) (text : List Char) : CommandResult :=
  match languageFor options with
  | .error message => { failure := [message] }
  | .ok language =>
    let recognizer := language.recognizer options.threshold
    let lines := Text.lines text
    if options.codeOnly then
      { printed := .lines ((recognizer.extract lines).map String.ofList) }
    else
      let classified := lines.mapIdx fun position line =>
        classifiedLine recognizer (position + 1) line
      { printed := .lines classified }

def runClassify (volume : Volume) (current : List String) (input : ByteArray)
    (options : ClassifyOptions) : CommandResult :=
  match options.file? with
  | some path =>
    match volume.readText current ⟨path⟩ with
    | .ok text => classifyText options text
    | .error error => { failure := ["Failed to read " ++ path, error.message] }
  | none =>
    match String.fromUTF8? input with
    | some text => classifyText options text.toList
    | none => { failure := ["Failed to read stdin", ReadError.notText.message] }

def run (command : Command) (volume : Volume) (current : List String) (input : ByteArray) :
    CommandResult :=
  match command with
  | .scan options => runScan volume current options
  | .classify options => runClassify volume current input options

end Command

end CodeMetrics
