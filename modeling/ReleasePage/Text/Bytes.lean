/-!
# Bytes of a text

File contents, response bodies and encoded texts are sequences of bytes. A text
is turned into its UTF-8 bytes here; the way back, which can fail, is in
`ReleasePage.Text.Utf8`.
-/

namespace ReleasePage.Text

/-- A sequence of bytes: the contents of a file, a response body or an encoded
text. -/
abbrev Bytes := List UInt8

/-- The UTF-8 bytes of a text. -/
def bytes (text : String) : Bytes := text.toUTF8.data.toList

/-- Two texts in the lexicographic order of their bytes, a proper beginning
being the smaller one. -/
def compareBytes (a b : String) : Ordering := compare (bytes a) (bytes b)

/-- One text comes strictly before another in the order of their bytes. -/
def bytesBefore (a b : String) : Bool := compareBytes a b == .lt

end ReleasePage.Text
