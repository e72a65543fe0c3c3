import TableLexer.Diagnostic.Log
import TableLexer.Settings
import TableLexer.Span
import TableLexer.Table.Builtin
import TableLexer.Token

/-!
# Scans

A scan goes over a source once, span by span.  It carries the line, the byte offset, the
tokens so far and the numbers of emitted, filtered and skipped spans.  Line feeds in
filtered spans always move the line count on, those in emitted spans only if the settings
say so, and those among skipped characters never; the count stops at the largest line
number.
-/

namespace TableLexer

/-- How the spans of a source were used, in numbers and in bytes. -/
structure ScanMetrics where
  emitted : Nat
  emittedBytes : Nat
  filtered : Nat
  filteredBytes : Nat
  skipped : Nat
  skippedBytes : Nat
deriving DecidableEq, Repr

namespace ScanMetrics

/-- Nothing has been used yet. -/
def zero : ScanMetrics := ⟨0, 0, 0, 0, 0, 0⟩

/-- The numbers with one more emitted span. -/
def addEmitted (m : ScanMetrics) (bytes : Nat) : ScanMetrics :=
  { m with emitted := m.emitted + 1, emittedBytes := m.emittedBytes + bytes }

/-- The numbers with one more filtered span. -/
def addFiltered (m : ScanMetrics) (bytes : Nat) : ScanMetrics :=
  { m with filtered := m.filtered + 1, filteredBytes := m.filteredBytes + bytes }

/-- The numbers with one more skipped character. -/
def addSkipped (m : ScanMetrics) (bytes : Nat) : ScanMetrics :=
  { m with skipped := m.skipped + 1, skippedBytes := m.skippedBytes + bytes }

/-- The bytes of all spans. -/
def consumedBytes (m : ScanMetrics) : Nat :=
  m.emittedBytes + m.filteredBytes + m.skippedBytes

end ScanMetrics

/-- The number of line feeds in the text, as far as line numbers go. -/
def newlineCount (text : List Char) : Nat :=
  min (Text.newlines text) maxLine

/-- A line number moved on by a number of line feeds, as far as line numbers go. -/
def advanceLine (line newlines : Nat) : Nat :=
  min (line + newlines) maxLine

/-- Where a scan stands: the line, the byte offset, the tokens so far, which are newest
first, and how the spans so far were used. -/
structure ScanState where
  line : Nat
  offset : Nat
  tokens : List Token
  metrics : ScanMetrics
deriving DecidableEq, Repr

namespace ScanState

/-- The start of a source. -/
def start : ScanState := ⟨1, 0, [], .zero⟩

/-- The state behind a text that is filtered. -/
def filter (s : ScanState) (text : List Char) : ScanState where
  line := advanceLine s.line (newlineCount text)
  offset := s.offset + Text.byteCount text
  tokens := s.tokens
  metrics := s.metrics.addFiltered (Text.byteCount text)

/-- The state behind a text that becomes a token of the kind. -/
def emit (settings : ScanSettings) (s : ScanState) (kind : Kind) (text : List Char) :
    ScanState where
  line := if settings.countNewlines then advanceLine s.line (newlineCount text) else s.line
  offset := s.offset + Text.byteCount text
  tokens := ⟨kind, String.ofList text, s.line, s.offset⟩ :: s.tokens
  metrics := s.metrics.addEmitted (Text.byteCount text)

/-- The state behind a text that no rule takes. -/
def skip (s : ScanState) (text : List Char) : ScanState where
  line := s.line
  offset := s.offset + Text.byteCount text
  tokens := s.tokens
  metrics := s.metrics.addSkipped (Text.byteCount text)

/-- The state behind a span. -/
def after (settings : ScanSettings) (s : ScanState) (span : Span) : ScanState :=
  match span.kind with
  | some kind =>
    if kind.isFiltered then s.filter span.text else s.emit settings kind span.text
  | none => s.skip span.text

end ScanState

/-- The outcome of a scan. -/
structure ScanOutput where
  language : Language
  tokens : List Token
  metrics : ScanMetrics
  /-- The line count at the end of the source. -/
  line : Nat
deriving DecidableEq, Repr

namespace Table

/-- Scans the rest of a source from a state on, one span after the other. -/
def scanFrom (t : Table) (settings : ScanSettings) (state : ScanState) :
    List Char → ScanState
  | [] => state
  | c :: rest =>
    let head := t.headSpan c rest
    scanFrom t settings (state.after settings head.1) ((c :: rest).drop head.2)
termination_by cs => cs.length
decreasing_by
  have := headSpan_pos t c rest
  simp only [List.length_drop, List.length_cons]
  omega

/-- The scan of a source with the table. -/
def scan (t : Table) (settings : ScanSettings) (source : String) : ScanOutput :=
  let last := t.scanFrom settings .start source.toList
  { language := t.language
    tokens := last.tokens.reverse
    metrics := last.metrics
    line := last.line }

/-- The scan of a source with the events of its start and its end. -/
def scanLogged (t : Table) (settings : ScanSettings) (source : String) :
    Logged ScanOutput := do
  Logged.say .debug "Starting scan"
    [("language", t.language.name), ("bytes", toString source.utf8ByteSize),
     ("rules", toString t.rules.length)]
  let output := t.scan settings source
  if output.metrics.skipped > 0 then
    Logged.say .warning "Input not matched by any rule was skipped"
      [("code", Code.unmatchedInput.text), ("language", t.language.name),
       ("skipped_chars", toString output.metrics.skipped)]
  if settings.logMetrics then
    Logged.success .scanComplete "Scan completed"
      [("language", t.language.name), ("tokens", toString output.metrics.emitted),
       ("filtered", toString output.metrics.filtered),
       ("skipped_chars", toString output.metrics.skipped), ("lines", toString output.line)]
  return output

/-- The check of all built-in tables with its events. -/
def validateAllLogged : Logged (List TableError) := do
  match allProblems with
  | [] =>
    Logged.success .ruleTablesValidated "Rule tables validated"
      [("languages", toString Language.all.length)]
    return []
  | errors =>
    let _ ← Logged.mapEach
      (fun e : TableError =>
        Logged.error e.code "Rule table validation failed"
          [("language", e.language.name), ("error", e.message)])
      errors
    return errors

end Table

/-- The scan of a source in a language. -/
def scanLanguage (settings : ScanSettings) (source : String) (language : Language) :
    Logged ScanOutput :=
  (Table.builtin language).scanLogged settings source

/-- The scan of a source in a language given by its identifier. -/
def scanNamed (settings : ScanSettings) (source identifier : String) :
    Logged (Except UnknownLanguage ScanOutput) :=
  match Language.parse identifier with
  | .error e => do
    Logged.error e.code "Unknown language requested" [("language", identifier)]
    return .error e
  | .ok language => do
    let output ← scanLanguage settings source language
    return .ok output

end TableLexer
