import TreeBundle.Text.Utf8

/-!
# Blocks of the artifact

Each packed file becomes one block: a fence, a line with its path, its text, and a closing fence
that a blank line follows.
-/
namespace TreeBundle.Block
set_option autoImplicit false

/-- A block in the pieces in which it is written. -/
def pieces (header contents : String) : List Bytes :=
  ["```\n", "// ", header, "\n", contents, "\n```\n\n"].map Utf8.ofString

/-- All the bytes of a block. -/
def bytes (header contents : String) : Bytes :=
  (pieces header contents).flatten

end TreeBundle.Block
