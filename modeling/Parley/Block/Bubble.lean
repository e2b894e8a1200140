import Parley.Json.Path
import Parley.Json.Record

/-!
# Bubbles

A bubble shows something: text, a picture, a film, another page, a sound.  Its content is kept
as authored.
-/

namespace Parley

inductive BubbleKind where
  | text
  | image
  | video
  | embed
  | audio
  deriving DecidableEq, Repr

namespace BubbleKind

def name : BubbleKind → String
  | .text => "text"
  | .image => "image"
  | .video => "video"
  | .embed => "embed"
  | .audio => "audio"

def every : List BubbleKind := [.text, .image, .video, .embed, .audio]

def read? : Json → Option BubbleKind := Json.oneOf? every name .exact

end BubbleKind

structure Bubble where
  kind : BubbleKind
  content : Json
  deriving DecidableEq, Repr

namespace Bubble

def fieldNames : List String := ["type", "content"]

def members (b : Bubble) : Members :=
  Json.field "type" (.string b.kind.name) ++ Json.field "content" b.content

def read? (j : Json) : Option Bubble := do
  let fields ← Json.record? fieldNames j
  let kind ← Json.required "type" BubbleKind.read? fields
  let content ← Json.defaulted "content" .null Json.any? fields
  some { kind, content }

/-- The content of a text bubble: one paragraph with one leaf, and the same text without
markup. -/
def textContent (plainText : String) : Json :=
  .object
    [("plainText", .string plainText),
     ("richText", .array
       [.object
         [("children", .array [.object [("text", .string plainText)]]),
          ("type", .string "p")]])]

def ofText (plainText : String) : Bubble := { kind := .text, content := textContent plainText }

/-- The text of the first leaf, or else the plain text. -/
def firstText? (b : Bubble) : Option String :=
  if b.kind = .text then
    ((b.content.atNames? ["richText", "0", "children", "0", "text"]).bind Json.string?).or
      ((b.content.member? "plainText").bind Json.string?)
  else none

end Bubble
end Parley
