/-
ExportControl.Suggestion.Report — pairs of the taxonomy suggested for free text.

Every candidate gives one row. Rows with a subject go into one report and rows
without into another, each in the order of the candidates.

* `Suggester.row` suggests a pair for one candidate.
* `Suggester.report` splits the rows of all candidates.
* `Cells.csv` writes the cells of rows as comma-separated records under a line of
  column names, and `Row.csv` rows by their cells.
-/
import ExportControl.Csv.Record
import ExportControl.Suggestion.Candidate
import ExportControl.Taxonomy.Match
import ExportControl.Text.Digit

namespace ExportControl.Suggestion

/-- What is suggested for one line. -/
structure Row where
  lineItem : String
  reportSummary : String
  pre : Option Prefix
  subject : Option Subject
  productName : String
  url : String
  deriving DecidableEq, Repr

/-- A taxonomy to match by, and where products are shown. -/
structure Suggester where
  matcher : Matcher
  baseUrl : Option String

/-- The rows with a subject and those without. -/
structure Report where
  matched : List Row
  unmatched : List Row
  deriving DecidableEq, Repr

/-! ## Suggesting -/

/-- A text without the slashes it ends in. -/
def dropSlashes (s : String) : String :=
  String.ofList (s.toList.reverse.dropWhile (· = '/')).reverse

namespace Suggester

/-- The suggester of a catalog. -/
def ofCatalog (catalog : Catalog) (remap : Remap) (baseUrl : Option String) : Suggester where
  matcher :=
    { remap
      prefixes := catalog.prefixes.ascending
      subjects := catalog.subjects.ascending }
  baseUrl

/-- Where a candidate's product is shown; nowhere without a base. -/
def url (suggester : Suggester) (candidate : Candidate) : String :=
  match suggester.baseUrl with
  | some base =>
    dropSlashes base ++ "/cases/" ++ candidate.caseId.text ++ "/products/"
      ++ candidate.lineItem.text
  | none => ""

/-- What is suggested for a candidate; a prefix is suggested only together with a subject. -/
def row (suggester : Suggester) (candidate : Candidate) : Row :=
  let (pre, subject) :=
    match suggester.matcher.run candidate.reportSummary with
    | .matched _ pre subject => (pre, some subject)
    | .unmappable _ _ => (none, none)
  { lineItem := candidate.lineItem.text
    reportSummary := candidate.reportSummary
    pre
    subject
    productName := candidate.productName
    url := suggester.url candidate }

/-- The reports on a list of candidates. -/
def report (suggester : Suggester) (candidates : List Candidate) : Report :=
  let rows := candidates.map suggester.row
  { matched := rows.filter fun row => row.subject.isSome
    unmatched := rows.filter fun row => row.subject.isNone }

end Suggester

/-! ## Writing -/

/-- The names of the columns. -/
def columns : List String :=
  ["id", "report_summary", "suggested_prefix", "suggested_prefix_id", "suggested_subject",
   "suggested_subject_id", "product_name", "url"]

/-- What stands in the cells of a row: of the terms that are suggested their names, which are
empty where nothing is, and their identifiers. -/
structure Cells where
  lineItem : String
  reportSummary : String
  preName : String
  preId : Option PrefixId
  subjectName : String
  subjectId : Option SubjectId
  productName : String
  url : String
  deriving DecidableEq, Repr

namespace Row

/-- An identifier in decimal, nothing where there is none. -/
def idText {term : Term} (id : Option (Number term)) : String :=
  (id.map fun id => Text.decimal id.value.toNat).getD ""

/-- The name of the suggested prefix. -/
def preName (row : Row) : String := (row.pre.map Prefix.name).getD ""

/-- The name of the suggested subject. -/
def subjectName (row : Row) : String := (row.subject.map Subject.name).getD ""

/-- The cells of a row. -/
def cells (row : Row) : Cells where
  lineItem := row.lineItem
  reportSummary := row.reportSummary
  preName := row.preName
  preId := row.pre.map Prefix.id
  subjectName := row.subjectName
  subjectId := row.subject.map Subject.id
  productName := row.productName
  url := row.url

end Row

namespace Cells

/-- The fields of a row by its cells. -/
def fields (cells : Cells) : List String :=
  [cells.lineItem, cells.reportSummary, cells.preName, Row.idText cells.preId,
   cells.subjectName, Row.idText cells.subjectId, cells.productName, cells.url]

/-- Rows of cells under a line of column names. -/
def csv (rows : List Cells) : String := Csv.render (columns :: rows.map fields)

end Cells

namespace Row

/-- The fields of a row. -/
def fields (row : Row) : List String := row.cells.fields

/-- Rows under a line of column names. -/
def csv (rows : List Row) : String := Cells.csv (rows.map cells)

end Row

end ExportControl.Suggestion
