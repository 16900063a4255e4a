import MessageCatalog.Message

/-! # Catalog text

The text of a catalog template: a header for every root, then for every line with messages one
comment that names the line, and for every message a block of two lines.
-/

namespace MessageCatalog.Catalog

/-- The text at the head of every root. -/
def header : String :=
  "#, fuzzy\nmsgid \"\"\nmsgstr \"\"\n\"Content-Type: text/plain; charset=UTF-8\\n\"\n"

def block (text : String) : String := "msgid " ++ text ++ "\nmsgstr " ++ text ++ "\n"

/-- The blocks of messages behind the first one, each behind a blank line. -/
def laterBlocks : List String → String
  | [] => ""
  | text :: texts => "\n" ++ block text ++ laterBlocks texts

/-- The text of a group: the comment for its line stands above the first block. -/
def renderGroup (g : MessageGroup) : String :=
  match g.texts with
  | [] => ""
  | text :: texts => "\n#: " ++ g.location.text ++ "\n" ++ block text ++ laterBlocks texts

def renderGroups : List MessageGroup → String
  | [] => ""
  | g :: gs => renderGroup g ++ renderGroups gs

def renderRoot (groups : List MessageGroup) : String := header ++ renderGroups groups

end MessageCatalog.Catalog
