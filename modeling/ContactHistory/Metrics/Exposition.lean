import ContactHistory.Metrics.Basic
import ContactHistory.Text.Shortest

namespace ContactHistory.Metrics

/-- What is the same for all series of one name; the names of the labels are in the order in which
their values are given. -/
structure Family where
  name : String
  help : String
  type : String
  labels : List String

def upFamily : Family := ⟨"cb_up", "Service health", "gauge", ["service"]⟩

def aggregationFamily : Family :=
  ⟨"contact_aggregations_total", "Contact aggregation calls by outcome", "counter",
    ["service", "result"]⟩

def sourceFamily : Family :=
  ⟨"contact_source_duration_seconds", "Contact point source query duration in seconds", "histogram",
    ["service", "source"]⟩

def requestSecondsFamily : Family :=
  ⟨"http_request_duration_seconds", "HTTP request duration in seconds", "histogram",
    ["service", "route", "method", "status"]⟩

def requestFamily : Family :=
  ⟨"http_requests_total", "HTTP request count", "counter", ["service", "route", "method", "status"]⟩

def labelText (s : String) : String :=
  String.ofList ('"' :: (s.toList.flatMap escape ++ ['"']))
where
  escape (c : Char) : List Char :=
    if c = '\\' then ['\\', '\\']
    else if c = '\n' then ['\\', 'n']
    else if c = '"' then ['\\', '"']
    else [c]

/-- One value: its name, its labels in braces, and its text. -/
def line (name : String) (labels : List (String × String)) (value : String) : String :=
  name ++ "\x7b" ++ ",".intercalate (labels.map fun (k, v) => k ++ "=" ++ labelText v) ++ "\x7d " ++
    value

namespace Family

/-- The labels with some values, in the order of their names. -/
def pairs (f : Family) (values : List String) : List (String × String) :=
  (f.labels.zip values).mergeSort fun a b => decide (a.1 ≤ b.1)

/-- The series in the order of their label values. -/
def inOrder {α : Type} (f : Family) (s : Series α) : List (List (String × String) × α) :=
  (s.entries.map fun e => (f.pairs e.1, e.2)).mergeSort fun a b =>
    !(b.1.map Prod.snd).lex (a.1.map Prod.snd) fun x y => decide (x < y)

/-- The lines of a family whose series have lines of their own. -/
def lines {α : Type} (f : Family) (s : Series α)
    (valueLines : List (String × String) → α → List String) : List String :=
  if s.entries.isEmpty then []
  else
    ["# HELP " ++ f.name ++ " " ++ f.help, "# TYPE " ++ f.name ++ " " ++ f.type] ++
      (f.inOrder s).flatMap fun e => valueLines e.1 e.2

def countLines (f : Family) (s : Series Nat) : List String :=
  f.lines s fun labels n => [line f.name labels (Text.Decimal.ofNat n)]

/-- The buckets with their bounds, the bucket of all durations, their sum and their number. -/
def histogramLines (f : Family) (bounds : List Float) (s : Series Histogram) : List String :=
  f.lines s fun labels h =>
    List.zipWith (fun b n =>
        line (f.name ++ "_bucket") (labels ++ [("le", Text.Shortest.text b)])
          (Text.Decimal.ofNat n)) bounds h.within ++
    [line (f.name ++ "_bucket") (labels ++ [("le", "+Inf")]) (Text.Decimal.ofNat h.count),
      line (f.name ++ "_sum") labels (Text.Shortest.text h.sum),
      line (f.name ++ "_count") labels (Text.Decimal.ofNat h.count)]

end Family

/-- The lines of all families in the order of their names. -/
def lines (m : Metrics) : List String :=
  upFamily.countLines m.up ++
  aggregationFamily.countLines m.aggregations ++
  sourceFamily.histogramLines sourceBounds m.sourceSeconds ++
  requestSecondsFamily.histogramLines requestBounds m.requestSeconds ++
  requestFamily.countLines m.requests

/-- The whole text: each line with a line break behind it. -/
def text (m : Metrics) : String := String.join (m.lines.map (· ++ "\n"))

def contentType : String := "text/plain; version=0.0.4"

end ContactHistory.Metrics
