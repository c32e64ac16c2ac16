set_option autoImplicit false

namespace QueryOptions.Manual

def overview : String := "QOPT DOCUMENTATION

qopt tokenizes the text of URL query options into token trees. It checks
syntax only: names are recorded as written and never resolved against a
data model.

DOCUMENTATION CATEGORIES

  literals          Numbers, strings, dates, guids and typed literals
  filter            $filter expressions: paths, operators, functions, lambdas
  search            $search terms, phrases and AND/OR/NOT
  orderby           $orderby sort lists
  compute           $compute aliases
  select-expand     $select/$expand paths and nested options
  apply             $apply aggregate, groupby, filter and compute
  settings          Tokenizer settings and the --config file

QUICK REFERENCE

  qopt filter \"Price gt 10 and Name eq 'Sam'\"
  qopt search 'blue OR \"dark red\"'
  qopt orderby \"Name desc,Id\"
  qopt expand \"Orders($filter=Total gt 100;$top=5)\"
  qopt tokens \"Price gt 10\"

Run 'qopt doc <category>' for detailed documentation.
"

namespace Page

def literals : String := "LITERALS - What the Lexer Recognizes

NUMBERS
  Integral text becomes the narrowest of Int32, Int64; fractional or
  exponent text becomes Single if it survives a float round trip, else
  Double, else Decimal.

  42                      IntegerLiteral
  2147483647111           Int64Literal
  123.001                 SingleLiteral
  1234567.001             DoubleLiteral
  3258.678765765489753678965390
                          DecimalLiteral
  1.5M  2.5d  1.5f  5L    Suffixes force decimal, double, single, int64
  INF  NaN  -INF          DoubleLiteral
  INFF  NaNf  -INFf       SingleLiteral

STRINGS
  'O''Neil'               Doubled quote escapes the delimiter
  \"say \\\"hi\\\"\"            Backslash escapes inside double quotes

DATES, TIMES, GUIDS
  2012-12-03              DateOnlyLiteral
  2012-12-03T07:16:23Z    DateTimeOffsetLiteral
  07:16:23.123            TimeOnlyLiteral
  01234567-89ab-cdef-0123-456789abcdef
                          GuidLiteral

TYPED LITERALS
  duration'P1DT2H'  binary'AQID'  X'0102'
  geography'POINT(10 20)'  geometry'POINT(10 20)'
  Color'Red'              QuotedLiteral (any other prefix)
  null'x'                 Error: typed nulls are not supported

OTHER
  true  false  null       BooleanLiteral, NullLiteral
  @p1                     AnnotationIdentifier (parameter alias)
"

def filter : String := "FILTER - Boolean Expressions

PRECEDENCE (lowest first)
  or
  and
  eq ne gt ge lt le has in    (plus configured custom operators)
  add sub
  mul div divby mod
  - not                       (unary)

PRIMARY EXPRESSIONS
  (expr)                  Grouping
  'Sam'  42  2012-12-03   Literals
  @p1                     Parameter alias
  Name                    Property path
  Address/City            Multi-segment path
  NS.Type/Name            Namespace-qualified segment
  $it  $this              Range variables always in scope

FUNCTIONS
  contains(Name,'a')      Free function
  Items/NS.Discount(0.1)  Function bound to a path

LAMBDAS
  Items/any(d:d/Price gt 5)
  Items/all(d:d/Active)
  Items/any()             Non-empty test

  The variable is only in scope inside the body. Reusing a name already
  in scope is an error.

MEMBERSHIP
  Name in ('a','b')

Trailing tokens after a complete expression are an error.
"

def search : String := "SEARCH - Free-Text Terms

  blue                    Term
  \"dark red\"              Phrase (\\\" and \\\\ escapes)
  blue AND red            Both
  blue red                Implicit AND
  blue OR red             Either
  NOT blue                Negation
  (blue OR red) AND NOT green

AND, OR and NOT are keywords in any letter case. Terms and phrases
produce StringLiteral tokens with quotes and escapes removed.
"

def orderBy : String := "ORDERBY - Sort Lists

  Name                    Ascending (default)
  Name asc                Ascending
  Price desc              Descending
  Name,Price desc,Id      Primary key first, then-by keys after

Each key is a full filter expression. Anything other than ',' or the end
of input after a key is an error.
"

def compute : String := "COMPUTE - Computed Properties

  Price mul Quantity as Total
  Price mul 0.9 as Discounted,year(Created) as Year

Every item needs 'as' followed by an alias identifier.
"

def selectExpand : String := "SELECT-EXPAND - Paths and Nested Options

PATHS
  Name                    Single property
  Address/City            Segments separated by '/'
  NS.Special/Name         Type-cast segment
  *                       All properties
  NS.*                    All operations of a namespace ($select only)
  Orders/$count           $count must be the last segment
  Orders/$ref             $expand only, unless enabled for $select
  */$ref                  In $expand, '*' may only be followed by $ref

NESTED OPTIONS
  Orders($filter=Total gt 100;$orderby=Total desc;$top=5;$skip=10)
  Orders($count=true;$search=blue;$compute=A mul B as C)
  Orders($select=Id,Total;$expand=Items($levels=max))

  $expand and $levels are only valid inside $expand. Each option may
  appear once per list; '()' is an error.
"

def apply : String := "APPLY - Aggregation Pipelines

TRANSFORMATIONS (separated by '/')
  aggregate(Amount with sum as Total)
  aggregate($count as Count)
  filter(Amount gt 100)
  compute(Amount mul 2 as Double)
  groupby((Category))
  groupby((Category,Region),aggregate(Amount with average as Mean))

METHODS
  sum  min  max  average  countdistinct  NS.Custom

Any other transformation name is an error.
"

def settings : String := "SETTINGS - Tokenizer Configuration

Pass a JSON file with --config; every field is optional.

  \x7b
    \"max_depth\": 256,              Nesting and chain-length limit
    \"case_insensitive\": false,     Keywords and option names ignore case
    \"allow_no_dollar_prefix\": false,
                                   Nested keys may omit '$'
    \"enable_ref_in_select\": false, Accept $ref in $select paths
    \"max_path_length\": 16,         Segment limit for select/expand paths
    \"custom_operators\": [\"near\"]   Extra comparison-level operators
  \x7d

Each parenthesis level costs several depth levels, each nested
$select/$expand list costs 8, and every operator in a chain such as
'a or b or c' costs one. Long value lists belong in 'in (...)', whose
items cost nothing extra.

Flags override the file: --max-depth, --case-insensitive,
--no-dollar-prefix. Set RUST_LOG=debug or RUST_LOG=trace to log the
tokenizer at work.
"

end Page

end QueryOptions.Manual
