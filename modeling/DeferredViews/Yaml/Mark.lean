import DeferredViews.Text.Utf8
import DeferredViews.Yaml.Scalar
import DeferredViews.Yaml.Token

/-!
# Directives, anchors and tags

The parts of a document that name things: directives before it, and the anchors, aliases and tags
of its nodes.
-/
namespace DeferredViews.Yaml

open Text

/-- The characters of names. -/
def isNameChar (c : Char) : Bool := c.isAlphanum || c = '-' || c = '_'

/-- The characters of tags. -/
def isTagChar (c : Char) : Bool := c.isAlphanum || "-;/?:@&=+$,_.!~*'()[]%".toList.contains c

/-- Whether a blank or a line end stands here. A tab is neither. -/
def endsPart (c : Option Char) : Bool := endsLine c || c = some ' '

def readNumber (c : Cursor) : Except Fault (Nat × Cursor) :=
  let (digits, c) := c.span Char.isDigit
  if digits.isEmpty then c.refuse "expected a digit"
  else .ok (readDigits 10 hexValue digits, c)

/-- The version that a document asks for. -/
def readVersion (c : Cursor) : Except Fault (Directive × Cursor) := do
  let (major, c) ← readNumber (c.span (· = ' ')).2
  if c.ahead 0 ≠ some '.' then c.refuse "expected a point"
  else
    let (_, c) ← readNumber c.next
    if endsPart (c.ahead 0) then .ok (.version major, c)
    else c.refuse "expected the end of the version"

/-- A handle of tags: an exclamation mark, or a name between two of them. -/
def readHandle (c : Cursor) : Except Fault (String × Cursor) :=
  if c.ahead 0 ≠ some '!' then c.refuse "expected an exclamation mark"
  else
    let (name, after) := c.next.span isNameChar
    if c.ahead 1 = some ' ' then .ok ("!", c.next)
    else if after.ahead 0 = some '!' then
      .ok ("!" ++ String.ofList name ++ "!", after.next)
    else after.refuse "expected an exclamation mark"

/-- The byte of an escape, after its percent sign. -/
def readByte (c : Cursor) : Except Fault (Nat × Cursor) :=
  let digits := c.rest.take 2
  if digits.length = 2 ∧ digits.all isHexDigit then
    .ok (readDigits 16 hexValue digits, c.skip 2)
  else c.refuse "expected two hexadecimal digits"

def readBytes : Nat → Cursor → Except Fault (List Nat × Cursor)
  | 0, c => .ok ([], c)
  | fuel + 1, c =>
    if c.ahead 0 = some '%' then do
      let (b, c) ← readByte c.next
      let (more, c) ← readBytes fuel c
      .ok (b :: more, c)
    else .ok ([], c)

/-- The text of a tag, whose escapes give the bytes of characters. -/
def readTagText : Nat → Cursor → Except Fault (List Char × Cursor)
  | 0, c => .ok ([], c)
  | fuel + 1, c =>
    match c.rest with
    | [] => .ok ([], c)
    | ch :: _ =>
      if ch = '%' then do
        let (bytes, after) ← readBytes c.rest.length c
        match decodeUtf8 bytes with
        | .error e => c.refuse e.message
        | .ok s =>
          let (more, c) ← readTagText fuel after
          .ok (s ++ more, c)
      else if isTagChar ch then do
        let (more, c) ← readTagText fuel c.next
        .ok (ch :: more, c)
      else .ok ([], c)

/-- The text of a tag, which is not empty. -/
def readTagSuffix (c : Cursor) : Except Fault (String × Cursor) := do
  let (s, after) ← readTagText (c.rest.length + 1) c
  if s.isEmpty then c.refuse "expected the text of a tag" else .ok (String.ofList s, after)

/-- What a handle of tags means. -/
def readHandleMeaning (c : Cursor) : Except Fault (Directive × Cursor) := do
  let (handle, c) ← readHandle (c.span (· = ' ')).2
  if c.ahead 0 ≠ some ' ' then c.refuse "expected a blank"
  else
    let (meaning, c) ← readTagSuffix (c.span (· = ' ')).2
    if endsPart (c.ahead 0) then .ok (.handle handle meaning, c)
    else c.refuse "expected a blank"

/-- Read a directive, and the rest of its line. -/
def readDirective (c : Cursor) : Except Fault (Directive × Cursor) := do
  let (name, c) := c.next.span isNameChar
  if name.isEmpty ∨ !endsPart (c.ahead 0) then c.refuse "expected the name of a directive"
  else
    let (d, c) ←
      match String.ofList name with
      | "YAML" => readVersion c
      | "TAG" => readHandleMeaning c
      | _ => .ok (.other, (c.span (!isBreak ·)).2)
    .ok (d, ← readLineRest c)

/-- Read the name of an anchor or an alias, after its mark. -/
def readName (c : Cursor) : Except Fault (String × Cursor) :=
  let (name, after) := c.next.span isNameChar
  if name.isEmpty then after.refuse "expected a name"
  else
    let next := after.ahead 0
    if endsWord next || next.any ("?:,]\x7d%@\x60".toList.contains ·) then
      .ok (String.ofList name, after)
    else after.refuse "expected the end of a name"

/-- Whether an exclamation mark stands before the end of the word. -/
def hasHandle (s : List Char) : Bool := (s.takeWhile fun c => !endsPart (some c)).contains '!'

/-- The tag of a node, but for what must follow it. -/
def readTagParts (c : Cursor) : Except Fault (Token × Cursor) := do
  if c.ahead 1 = some '<' then
    let (suffix, c) ← readTagSuffix (c.skip 2)
    if c.ahead 0 = some '>' then .ok (.tag none suffix, c.next)
    else c.refuse "expected the end of the tag"
  else if endsWord (c.ahead 1) then .ok (.tag none "!", c.next)
  else if hasHandle c.next.rest then
    let (handle, c) ← readHandle c
    let (suffix, c) ← readTagSuffix c
    .ok (.tag (some handle) suffix, c)
  else
    let (suffix, c) ← readTagSuffix c.next
    .ok (.tag (some "!") suffix, c)

/-- Read the tag of a node. -/
def readTag (c : Cursor) : Except Fault (Token × Cursor) := do
  let (t, c) ← readTagParts c
  if endsPart (c.ahead 0) then .ok (t, c) else c.refuse "expected a blank"

end DeferredViews.Yaml
