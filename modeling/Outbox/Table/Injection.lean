import Outbox.Text.Lowercase
import Outbox.Text.Search

namespace Outbox.Table

open Text

def injectionPatterns : List String :=
  ["union select", "union all select", "union distinct select", "'; drop table", "'; delete from",
   "'; truncate table", "'; insert into", "'; update ", "'; alter table", "exec(", "execute(",
   "sp_", "xp_", "fn_", "waitfor delay", "benchmark(", "sleep(", "load_file(", "into outfile",
   "into dumpfile", "information_schema", "sys.tables", "sys.columns", "0x", "0b", "\\x", "\\u",
   "\\n", "\\r", "\\t", "<!--", "-->", "<script", "</script>", "javascript:", "vbscript:",
   "expression("]

def commentMarks : List String := ["--", "/*"]

def singleQuote : Char := '\x27'
def doubleQuote : Char := '\x22'

-- A known pattern, a quote without its partner, or the start of a comment.
def resemblesInjection (s : List Char) : Bool :=
  let lower := lowercase s
  injectionPatterns.any (fun p => occurs p.toList lower)
    || s.count singleQuote % 2 != 0
    || s.count doubleQuote % 2 != 0
    || commentMarks.any (fun p => occurs p.toList lower)

end Outbox.Table
