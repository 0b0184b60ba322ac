/-!
# The vocabulary of templates

The filters, the tests and the variables that every template knows, and how they are called.
-/

namespace Stepwise.Template

/-- What a filter needs besides its arguments, which counts as its first argument in messages. -/
inductive Hidden where
  | nothing | environment | escaping | context
  deriving DecidableEq, Inhabited

/-- How arguments are counted: by parameters with names, or by their number alone, in one of two
wordings. -/
inductive Counting where
  | byName | exactly | expected
  deriving DecidableEq, Inhabited

/-- How a filter or a test is called: its label in messages, what it needs, the parameters that must be
given and the names of the others. -/
structure Calling where
  label : String
  hidden : Hidden := .nothing
  required : List String
  optional : List String := []
  /-- Are there any number of further arguments? -/
  openEnded : Bool := false
  counting : Counting := .byName
  deriving Inhabited

/-- The filters with their callings. -/
def filterCallings : List (String × Calling) :=
  let sortOptions := ["case_sensitive", "attribute"]
  let text (label : String) : Calling := { label := label, required := ["s"] }
  let default : Calling := { label := "do_default", required := ["value"], optional := ["default_value", "boolean"] }
  let escape : Calling := { label := "escape", required := ["s"] }
  let size : Calling := { label := "len", required := ["obj"], counting := .exactly }
  let lazy (label : String) : Calling :=
    { label := label, hidden := .context, required := ["value"], openEnded := true }
  [("abs", { label := "abs", required := ["x"], counting := .exactly }),
   ("attr", { label := "do_attr", hidden := .environment, required := ["obj", "name"] }),
   ("batch", { label := "do_batch", required := ["value", "linecount"], optional := ["fill_with"] }),
   ("capitalize", text "do_capitalize"),
   ("center", { label := "do_center", required := ["value"], optional := ["width"] }),
   ("count", size), ("d", default), ("default", default),
   ("dictsort", { label := "do_dictsort", required := ["value"], optional := ["case_sensitive", "by", "reverse"] }),
   ("e", escape), ("escape", escape),
   ("filesizeformat", { label := "do_filesizeformat", required := ["value"], optional := ["binary"] }),
   ("first", { label := "sync_do_first", hidden := .environment, required := ["seq"] }),
   ("float", { label := "do_float", required := ["value"], optional := ["default"] }),
   ("forceescape", { label := "do_forceescape", required := ["value"] }),
   ("format", { label := "do_format", required := ["value"], openEnded := true }),
   ("groupby", { label := "sync_do_groupby", hidden := .environment, required := ["value", "attribute"],
                 optional := ["default", "case_sensitive"] }),
   ("indent", { label := "do_indent", required := ["s"], optional := ["width", "first", "blank"] }),
   ("int", { label := "do_int", required := ["value"], optional := ["default", "base"] }),
   ("items", { label := "do_items", required := ["value"] }),
   ("join", { label := "sync_do_join", hidden := .escaping, required := ["value"], optional := ["d", "attribute"] }),
   ("last", { label := "do_last", hidden := .environment, required := ["seq"] }),
   ("length", size),
   ("list", { label := "sync_do_list", required := ["value"] }),
   ("lower", text "do_lower"),
   ("map", lazy "sync_do_map"),
   ("max", { label := "do_max", hidden := .environment, required := ["value"], optional := sortOptions }),
   ("min", { label := "do_min", hidden := .environment, required := ["value"], optional := sortOptions }),
   ("pprint", { label := "do_pprint", required := ["value"] }),
   ("random", { label := "do_random", hidden := .context, required := ["seq"] }),
   ("reject", lazy "sync_do_reject"), ("rejectattr", lazy "sync_do_rejectattr"),
   ("replace", { label := "do_replace", hidden := .escaping, required := ["s", "old", "new"], optional := ["count"] }),
   ("reverse", { label := "do_reverse", required := ["value"] }),
   ("round", { label := "do_round", required := ["value"], optional := ["precision", "method"] }),
   ("safe", { label := "do_mark_safe", required := ["value"] }),
   ("select", lazy "sync_do_select"), ("selectattr", lazy "sync_do_selectattr"),
   ("slice", { label := "sync_do_slice", required := ["value", "slices"], optional := ["fill_with"] }),
   ("sort", { label := "do_sort", hidden := .environment, required := ["value"], optional := "reverse" :: sortOptions }),
   ("string", { label := "soft_str", required := ["s"] }),
   ("striptags", { label := "do_striptags", required := ["value"] }),
   ("sum", { label := "sync_do_sum", hidden := .environment, required := ["iterable"], optional := ["attribute", "start"] }),
   ("title", text "do_title"),
   ("tojson", { label := "do_tojson", hidden := .escaping, required := ["value"], optional := ["indent"] }),
   ("trim", { label := "do_trim", required := ["value"], optional := ["chars"] }),
   ("truncate", { label := "do_truncate", hidden := .environment, required := ["s"],
                  optional := ["length", "killwords", "end", "leeway"] }),
   ("unique", { label := "sync_do_unique", hidden := .environment, required := ["value"], optional := sortOptions }),
   ("upper", text "do_upper"),
   ("urlencode", { label := "do_urlencode", required := ["value"] }),
   ("urlize", { label := "do_urlize", hidden := .escaping, required := ["value"],
                optional := ["trim_url_limit", "nofollow", "target", "rel", "extra_schemes"] }),
   ("wordcount", text "do_wordcount"),
   ("wordwrap", { label := "do_wordwrap", hidden := .environment, required := ["s"],
                  optional := ["width", "break_long_words", "wrapstring", "break_on_hyphens"] }),
   ("xmlattr", { label := "do_xmlattr", hidden := .escaping, required := ["d"], optional := ["autospace"] })]

/-- The tests with their callings. Comparisons go by names and by signs. -/
def testCallings : List (String × Calling) :=
  let one (name : String) : String × Calling := (name, { label := "test_" ++ name, required := ["value"] })
  let among (name : String) : String × Calling :=
    (name, { label := "test_" ++ name, hidden := .environment, required := ["value"] })
  let two (name second : String) : String × Calling :=
    (name, { label := "test_" ++ name, required := ["value", second] })
  let compared (label : String) (names : List String) : List (String × Calling) :=
    names.map fun n => (n, { label := label, required := ["a", "b"], counting := .expected })
  ["odd", "even", "defined", "undefined", "none", "boolean", "false", "true", "integer", "float", "lower",
    "upper", "string", "mapping", "number", "sequence", "iterable", "escaped"].map one ++
  ["filter", "test"].map among ++ [two "divisibleby" "num", two "sameas" "other", two "in" "seq"] ++
  [("callable", { label := "callable", required := ["obj"], counting := .exactly })] ++
  compared "eq" ["==", "eq", "equalto"] ++ compared "ne" ["!=", "ne"] ++
  compared "gt" [">", "gt", "greaterthan"] ++ compared "ge" ["ge", ">="] ++
  compared "lt" ["<", "lt", "lessthan"] ++ compared "le" ["<=", "le"]

def isFilter (id : String) : Bool := (filterCallings.lookup id).isSome
def isTest (id : String) : Bool := (testCallings.lookup id).isSome

end Stepwise.Template
