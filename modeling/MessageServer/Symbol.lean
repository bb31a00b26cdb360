import MessageServer.Bytes.Layout
import MessageServer.Text.Quoted

/-!
# Symbols

A symbol names an instrument or a venue in 16 bytes: text, then zero bytes.  Any 16 bytes are a
symbol; `Symbol.text` is the text it shows, which ends at the first zero byte and is empty when
the bytes before it are not well-formed UTF-8.
-/

namespace MessageServer

open Bytes

/-- Sixteen bytes of text, filled up with zeros. -/
structure Symbol where
  bytes : Vector UInt8 16
  deriving DecidableEq

namespace Symbol

/-- The symbol without text. -/
def blank : Symbol :=
  ⟨Vector.replicate 16 0⟩

/-- The first 16 bytes of the text; the cut may split a character. -/
def ofText (s : String) : Symbol :=
  let bytes := s.toUTF8
  ⟨Vector.ofFn fun i => bytes.data.getD i 0⟩

/-- The bytes before the first zero byte. -/
def content (s : Symbol) : List UInt8 :=
  s.bytes.toList.takeWhile (· != 0)

/-- The text shown: the content, or nothing when the content is not text. -/
def text (s : Symbol) : String :=
  (String.fromUTF8? ⟨s.content.toArray⟩).getD ""

/-- The text in quotation marks, for a log. -/
def quotedText (s : Symbol) : String :=
  s!"Symbol({Text.quoted s.text})"

/-- A symbol lies in memory as its bytes. -/
def layout : Layout Symbol :=
  (Layout.block 16).via Symbol.mk Symbol.bytes

theorem layout_faithful : layout.Faithful :=
  (Layout.block_faithful 16).via (fun _ => rfl) (fun _ => rfl)

end Symbol

end MessageServer
