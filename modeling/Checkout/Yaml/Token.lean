import Checkout.Unreadable

/-!
# Tokens of a YAML text

A YAML text is read as a list of tokens: scalars with the marks between them.  Indentation shows as
marks that open and close blocks, so that what follows needs no columns any more.  Where a text can
not be read any further, the last token tells why.
-/

namespace Checkout.Yaml

/-- A scalar or a mark. -/
inductive Token
  /-- Three dashes, which begin a document. -/
  | documentStart
  /-- Three dots, which end a document. -/
  | documentEnd
  /-- The first entry of an indented list. -/
  | blockListStart
  /-- The first key of an indented mapping. -/
  | blockMappingStart
  /-- The end of an indented list or mapping. -/
  | blockEnd
  | flowListStart
  | flowListEnd
  | flowMappingStart
  | flowMappingEnd
  /-- A dash in front of an entry. -/
  | entry
  /-- A comma. -/
  | comma
  /-- What stands before a key. -/
  | key
  /-- A colon, or what stands before a value. -/
  | value
  /-- A scalar; a plain one is written without quotes. -/
  | scalar (text : List Char) (plain : Bool)
  /-- The text is not read from here on. -/
  | broken (reason : Unreadable)
  deriving DecidableEq

end Checkout.Yaml
