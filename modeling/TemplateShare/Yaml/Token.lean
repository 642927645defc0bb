import TemplateShare.Yaml.Cursor

/-! # YAML tokens

The lexical units of a YAML stream and the ways in which reading a stream can fail. -/

namespace TemplateShare.Yaml

/-- **Why a YAML text is refused.** -/
inductive Error where
  /-- A character that may not stand in a stream. -/
  | character
  /-- No token can be read at some place. -/
  | token
  /-- The tokens do not form a document. -/
  | layout
  /-- An alias without its anchor. -/
  | unknownAnchor
  /-- A second document, or none. -/
  | documentCount
  /-- A value of another kind than the one asked for, or a field missing or given twice. -/
  | shape
  /-- Aliases that unfold too deeply or too often. -/
  | unfolding
deriving DecidableEq, Repr

/-- The five ways to write a scalar. -/
inductive ScalarStyle where
  | plain
  | singleQuoted
  | doubleQuoted
  | literal
  | folded
deriving DecidableEq, Repr

/-- **A token.** The end of the token list is the end of the stream. -/
inductive Token where
  /-- A `%YAML` line with its two numbers. -/
  | versionDirective (major minor : Nat)
  /-- A `%TAG` line: a handle and what it abbreviates. -/
  | tagDirective (handle expansion : List Char)
  | documentStart
  | documentEnd
  | blockSequenceStart
  | blockMappingStart
  | blockEnd
  | flowSequenceStart
  | flowSequenceEnd
  | flowMappingStart
  | flowMappingEnd
  | blockEntry
  | flowEntry
  | key
  | value
  | alias (name : List Char)
  | anchor (name : List Char)
  /-- A tag, as its handle and the rest; the octets of escapes stand as characters below 256. -/
  | tag (handle suffix : List Char)
  | scalar (style : ScalarStyle) (text : List Char)
deriving DecidableEq, Repr

end TemplateShare.Yaml
