import TemplateShare.Portable.Parser
import TemplateShare.Wire

/-! # Pasted texts

A text that is pasted is either a portable document or a wire payload. Nothing is taken over unless
the whole text can be read. -/

namespace TemplateShare.Pasted

/-- **The document of a pasted text.** Whatever looks like a portable document has to be one. -/
def parse (text : String) : Except EncodingError DataTemplate :=
  if Portable.looksLike text then Portable.parse text
  else do (← Wire.parse (Text.trim text)).decode

end TemplateShare.Pasted
