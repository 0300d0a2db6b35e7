/-
# Analysis.Metrics — the measures of a run as a text

Measures of one kind are a family with a name, an explanation and a type; its
lines carry labels and come in their order.  Families come by name, and one
without lines is left out.  A histogram has a line for every bound, with the
number of values up to it, and then their sum and their number.
-/
import Exposure.Analysis.Measure
import Exposure.Number.Binary64

namespace Exposure

set_option autoImplicit false

namespace RunOutcome

def text : RunOutcome → String
  | .success => "success"
  | .failure => "failure"
  | .timeout => "timeout"

end RunOutcome

namespace Phase

def text : Phase → String
  | .construct => "construct"
  | .search => "search"
  | .scan => "scan"

end Phase

namespace BugOutcome

def text : BugOutcome → String
  | .reachable => "reachable"
  | .unreachable => "unreachable"
  | .failed => "failed"

end BugOutcome

namespace Metrics

/-- A number as the text shows it. -/
def numberText (n : Int) : String := (Number.Binary64.ofInt n).text

/-- One line: the end of its name, its labels and its value. -/
structure Sample where
  suffix : String := ""
  labels : List (String × String) := []
  value : Int

/-- Labels between braces. -/
def labelsText (labels : List (String × String)) : String :=
  if labels.isEmpty then ""
  else "\x7b" ++ Text.joined "," (labels.map fun (k, v) => k ++ "=\"" ++ v ++ "\"") ++ "\x7d"

/-- Samples of one kind. -/
structure Family where
  name : String
  help : String
  type : String
  samples : List Sample

def Family.text (f : Family) : String :=
  if f.samples.isEmpty then ""
  else
    "# HELP " ++ f.name ++ " " ++ f.help ++ "\n# TYPE " ++ f.name ++ " " ++ f.type ++ "\n"
      ++ String.join (f.samples.map fun s =>
        f.name ++ s.suffix ++ labelsText s.labels ++ " " ++ numberText s.value ++ "\n")

/-- The sum of values. -/
def total (values : List Int) : Int := values.foldl (· + ·) 0

/-- How often labels occur, in their order. -/
def counts (labels : List (List (String × String))) : List Sample :=
  let table := labels.foldl (fun (d : Dict (List (String × String) × Nat)) ls =>
    d.alter (labelsText ls) fun known => (ls, (known.map (·.2)).getD 0 + 1)) .empty
  table.values.map fun (labels, n) => { labels, value := n }

/-- The lines of a histogram over the values with some labels; a bound is its text and a test
for the values up to it. -/
def histogram (labels : List (String × String)) (bounds : List (String × (Int → Bool)))
    (values : List Int) : List Sample :=
  (bounds.map fun (text, isUpTo) =>
    { suffix := "_bucket", labels := labels ++ [("le", text)],
      value := (values.filter isUpTo).length })
    ++ [{ suffix := "_bucket", labels := labels ++ [("le", "+Inf")], value := values.length },
      { suffix := "_sum", labels, value := total values },
      { suffix := "_count", labels, value := values.length }]

/-- The bounds for the lengths of paths. -/
def lengthBounds : List (String × (Int → Bool)) :=
  [1, 2, 3, 5, 8, 13, 21, 34].map fun (n : Int) => (Text.intText n, fun v => decide (v ≤ n))

/-- The bounds for the seconds of a phase; the time of a run stands still. -/
def durationBounds : List (String × (Int → Bool)) :=
  ["0.01", "0.04", "0.16", "0.64", "2.56", "10.24", "40.96", "163.84", "655.36", "2621.44"].map
    fun s => (s, fun v => decide (v ≤ 0))

def bugSamples (ms : List Measure) : List Sample :=
  counts (ms.filterMap fun
    | .bug outcome => some [("result", outcome.text)]
    | _ => none)

/-- The size of the last graph. -/
def graphSamples (ms : List Measure) : List Sample :=
  let sizes := ms.filterMap fun
    | .graphSize nodes edges => some (nodes, edges)
    | _ => none
  match sizes.getLast? with
  | none => []
  | some (nodes, edges) =>
    [{ labels := [("kind", "edges")], value := edges },
      { labels := [("kind", "nodes")], value := nodes }]

def lengthSamples (ms : List Measure) : List Sample :=
  histogram [] lengthBounds (ms.filterMap fun
    | .pathLength calls => some (calls : Int)
    | _ => none)

def phaseSamples (ms : List Measure) : List Sample :=
  [Phase.construct, .scan, .search].flatMap fun p =>
    let seen := ms.filter (· == .phase p)
    if seen.isEmpty then [] else histogram [("phase", p.text)] durationBounds (seen.map fun _ => 0)

def runSamples (ms : List Measure) : List Sample :=
  counts (ms.filterMap fun
    | .run outcome => some [("outcome", outcome.text)]
    | _ => none)

def scannedSamples (ms : List Measure) : List Sample :=
  [{ value := total (ms.filterMap fun
    | .scanned nodes => some nodes
    | _ => none) }]

def uploadSamples (ms : List Measure) : List Sample :=
  counts (ms.filterMap fun
    | .upload kind ok => some [("kind", kind), ("result", if ok then "ok" else "error")]
    | _ => none)

/-- The families of measures. -/
def families (ms : List Measure) : List Family := [
  ⟨"vulnreach_bugs_total", "Searched bugs by result", "counter", bugSamples ms⟩,
  ⟨"vulnreach_callgraph_size", "Nodes and edges of the last constructed call graph", "gauge",
    graphSamples ms⟩,
  ⟨"vulnreach_path_length", "Number of calls along each found path", "histogram", lengthSamples ms⟩,
  ⟨"vulnreach_phase_duration_seconds", "Duration of each analysis phase", "histogram",
    phaseSamples ms⟩,
  ⟨"vulnreach_runs_total", "Analysis runs by outcome", "counter", runSamples ms⟩,
  ⟨"vulnreach_scanned_nodes_total", "Call graph nodes visited by partition scanners", "counter",
    scannedSamples ms⟩,
  ⟨"vulnreach_uploads_total", "Upload calls by kind and result", "counter", uploadSamples ms⟩]

/-- The measures as a text. -/
def text (ms : List Measure) : String := String.join ((families ms).map Family.text)

end Metrics

end Exposure
