import LogShift.Enrichment
import LogShift.Failure
import LogShift.Line.Parser

/-! How a batch is run: its format, its limits, its parser and its enrichers. -/
namespace LogShift

/-- Bytes of the longest line that is taken unless a setting says otherwise. -/
def defaultMaxLineLength : Nat := 65536

structure BatchConfig where
  format : LogFormat
  /-- The year of the first line of a format without years. -/
  startYear : Int
  /-- The reference moment, if it is fixed. -/
  now : Option Moment
  maxLineLength : Nat
  /-- Whether the enrichers of the format are used. -/
  enrich : Bool
deriving DecidableEq

namespace BatchConfig

def forFormat (format : LogFormat) : BatchConfig where
  format := format
  startYear := format.defaultStartYear
  now := none
  maxLineLength := defaultMaxLineLength
  enrich := true

/-- The years that four digits can show. -/
def isFourDigitYear (y : Int) : Bool :=
  1 ≤ y && y ≤ 9999

def validate (c : BatchConfig) : Except Failure Unit := do
  if !isFourDigitYear c.startYear then
    .error (.setting "start_year" s!"must be 1-9999, got {c.startYear}")
  if let some now := c.now then
    if !isFourDigitYear now.year then
      .error (.setting "now" s!"year must be 1-9999, got {now.year}")
  if c.maxLineLength = 0 then
    .error (.setting "max_line_length" "must be greater than 0")

end BatchConfig

/-- A batch ready to take lines. -/
structure Pipeline where
  config : BatchConfig
  parser : LineParser
  enrichers : List Enricher

namespace Pipeline

def format (p : Pipeline) : LogFormat := p.config.format

/-- Checks the settings first and then that the parser, if one is given, is of the format. Any given
enrichers take the place of those of the format. -/
def build (config : BatchConfig) (parser : Option LineParser) (given : List Enricher) :
    Except Failure Pipeline := do
  config.validate
  let parser := parser.getD (.builtin config.format)
  if parser.format ≠ config.format then
    .error (.setting "parser"
      s!"parser handles {parser.format.name} but the batch format is {config.format.name}")
  let enrichers :=
    if !given.isEmpty then given
    else if config.enrich then Enricher.builtin config.format
    else []
  return ⟨config, parser, enrichers⟩

end Pipeline

end LogShift
