import Pressroom.Data.Value

/-!
Sample templates with sample content, each of them a complete page that defines its sections. The
invoice uses directives with percent signs, the report directives with tags.
-/

namespace Pressroom

structure Sample where
  name : String
  markup : String
  content : Value

namespace Sample

/-- A text of lines, each of them ended. -/
def ofLines (lines : List String) : String :=
  String.join (lines.map (· ++ "\n"))

def whole (n : Nat) : Value := .num (.int n)

/-! ### An invoice -/

def invoiceMarkup : String := ofLines
  ["<!DOCTYPE html>",
    "<html>",
    "<head>",
    "    <meta charset=\"utf-8\">",
    "    <title>Invoice</title>",
    "</head>",
    "<body>",
    "$$[invoice]$$",
    "<div class=\"invoice\"%%style[$.style.box, true]%%>",
    "    <h1>Invoice \x7b\x7b$.number\x7d\x7d</h1>",
    "    <p class=\"customer\">\x7b\x7b$.customer.name\x7d\x7d</p>",
    "    %%section[$.content]%%",
    "</div>",
    "!![invoice]!!",
    "",
    "$$[lines]$$",
    "<table>",
    "    <tr><th>#</th><th>Item</th><th>Qty</th><th>Amount</th></tr>",
    "    %%for[line, i]\x7b$.lines\x7d%%",
    "    <tr><td>\x7b\x7bi + 1\x7d\x7d</td>" ++
      "<td>\x7b\x7bline.item\x7d\x7d</td><td>\x7b\x7bline.qty\x7d\x7d</td>" ++
      "<td>\x7b\x7b(line.qty * line.price).toFixed(2)\x7d\x7d</td></tr>",
    "    %%endfor%%",
    "</table>",
    "!![lines]!!",
    "",
    "$$[status]$$",
    "%%if\x7b$.paid\x7d%%<p class=\"paid\">Paid, thank you.</p>" ++
      "%%else-if\x7b$.overdue_days > 30\x7d%%" ++
      "<p class=\"late\">Overdue by \x7b\x7b$.overdue_days\x7d\x7d days</p>" ++
      "%%else%%<p>Due \x7b\x7b$.due\x7d\x7d</p>%%endif%%",
    "!![status]!!",
    "</body>",
    "</html>"]

def invoiceLine (item : String) (quantity : Nat) (price : Value) : Value :=
  .obj [("item", .str item), ("qty", whole quantity), ("price", price)]

def invoiceLines : Value :=
  .obj [("type", .str "lines"),
    ("lines", .arr [invoiceLine "Design" 2 (whole 150),
      invoiceLine "Hosting" 1 (.num (.float 20.5))])]

def invoiceStatus : Value :=
  .obj [("type", .str "status"), ("paid", .bool false), ("overdue_days", whole 45),
    ("due", .str "2024-12-01")]

def invoice : Sample where
  name := "invoice"
  markup := invoiceMarkup
  content := .arr [.obj [("type", .str "invoice"), ("number", .str "2024-001"),
    ("customer", .obj [("name", .str "ACME Corp")]),
    ("style", .obj [("box",
      .obj [("border", .str "1px solid #000"), ("padding_left", .str "4px")])]),
    ("content", .arr [invoiceLines, invoiceStatus])]]

/-! ### A report -/

def reportMarkup : String := ofLines
  ["<!DOCTYPE html>",
    "<html>",
    "<head>",
    "    <meta charset=\"utf-8\">",
    "    <title>Quarterly report</title>",
    "</head>",
    "<body>",
    "<a-define-section [report]>",
    "<div class=\"card\" style=\"<a-style[$.style.card]/>\">",
    "    <h2>\x7b\x7b$.title\x7d\x7d</h2>",
    "    <a-section [$.content] />",
    "</div>",
    "</a-define-section [report]>",
    "",
    "<a-define-section [metric]>",
    "<a-if condition=\"$.value >= $.target\">",
    "    <p class=\"ok\">\x7b\x7b$.label\x7d\x7d: \x7b\x7b$.value\x7d\x7d</p>",
    "<a-else-if condition=\"$.value >= $.target * 0.8\" />",
    "    <p class=\"warn\">\x7b\x7b$.label\x7d\x7d: \x7b\x7b$.value\x7d\x7d</p>",
    "<a-else />",
    "    <p class=\"bad\">\x7b\x7b$.label\x7d\x7d: \x7b\x7b$.value\x7d\x7d</p>",
    "</a-if>",
    "</a-define-section [metric]>",
    "",
    "<a-define-section [list]>",
    "<ul>",
    "<a-for [entry] array=\"$.entries\"><li<a-style[entry.style, " ++
      "true]/>>\x7b\x7bentry.text\x7d\x7d</li></a-for>",
    "</ul>",
    "</a-define-section [list]>",
    "</body>",
    "</html>"]

def reportMetric (label : String) (value target : Nat) : Value :=
  .obj [("type", .str "metric"), ("label", .str label), ("value", whole value),
    ("target", whole target)]

def reportList : Value :=
  .obj [("type", .str "list"),
    ("entries", .arr [
      .obj [("text", .str "Launched billing"), ("style", .obj [("font_weight", .str "bold")])],
      .obj [("text", .str "Hired two engineers")]])]

def report : Sample where
  name := "report"
  markup := reportMarkup
  content := .arr [.obj [("type", .str "report"), ("title", .str "Q4"),
    ("style", .obj [("card", .obj [("background", .str "#eee")])]),
    ("content", .arr [reportMetric "Revenue" 120 100, reportMetric "Retention" 85 100,
      reportMetric "NPS" 10 100, reportList])]]

/-! ### The least that there is -/

def minimal : Sample where
  name := "minimal"
  markup := "<html><head></head><body>$$[text]$$" ++
    "<p>\x7b\x7b$.text\x7d\x7d</p>!![text]!!</body></html>"
  content := .null

def ofName? (name : String) : Option Sample :=
  [invoice, report, minimal].find? (·.name == name)

end Sample

end Pressroom
