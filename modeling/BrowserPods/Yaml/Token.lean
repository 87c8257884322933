import BrowserPods.Text.Utf8
import BrowserPods.Yaml.Scalar

/-!
The tokens of a YAML text.  The beginnings and ends of block collections, which the text shows by
its indentation only, are tokens, too; a key that shows as one only by the colon behind it gets its
token in front of it (`Lexer.addValue?`).
-/

namespace BrowserPods.Yaml

inductive Token where
  | versionDirective (major minor : Nat)
  | tagDirective (handle start : List Char)
  | documentStart
  | documentEnd
  | blockSequenceStart
  | blockMappingStart
  | blockEnd
  | flowSequenceStart
  | flowSequenceEnd
  | flowMappingStart
  | flowMappingEnd
  | blockEntry
  | flowEntry
  | key
  | value
  | alias (name : List Char)
  | anchor (name : List Char)
  | tag (handle suffix : List Char)
  | scalar (style : ScalarStyle) (text : List Char)
deriving DecidableEq, Repr

/-- A place where a key may have begun. -/
structure KeyMark where
  possible : Bool := false
  /-- Whether only a key can stand there. -/
  required : Bool := false
  /-- The number of tokens before it. -/
  position : Nat := 0
  index : Nat := 0
  line : Nat := 0
  column : Nat := 0
deriving Repr

structure Lexer where
  cursor : Cursor
  /-- The tokens so far, in reverse. -/
  tokens : List Token := []
  count : Nat := 0
  flowLevel : Nat := 0
  /-- The column of the innermost block collection, below zero outside of any. -/
  indent : Int := -1
  /-- The columns of the collections around it. -/
  indents : List Int := []
  /-- Whether a key or an entry may begin here. -/
  keyAllowed : Bool := true
  /-- Where a key may have begun, for each level of flow collections, innermost first. -/
  keys : List KeyMark := [{}]
deriving Repr

namespace Lexer

def push (lexer : Lexer) (token : Token) : Lexer :=
  { lexer with tokens := token :: lexer.tokens, count := lexer.count + 1 }

def insertAt (lexer : Lexer) (position : Nat) (token : Token) : Lexer :=
  let later := lexer.count - position
  { lexer with
    tokens := lexer.tokens.take later ++ token :: lexer.tokens.drop later
    count := lexer.count + 1 }

/-- The longest key, in characters. -/
def keyLimit : Nat := 1024

/-- Whether a key that may have begun there can still end here. -/
def KeyMark.isFresh (mark : KeyMark) (cursor : Cursor) : Bool :=
  mark.line == cursor.line && cursor.index ≤ mark.index + keyLimit

/-- Forgets places of keys that are too far back; a required key must not be among them. -/
def forgetOldKeys? (lexer : Lexer) : Option Lexer :=
  (lexer.keys.mapM fun mark =>
    if mark.possible && !KeyMark.isFresh mark lexer.cursor then
      if mark.required then none else some { mark with possible := false }
    else some mark).map fun keys => { lexer with keys }

/-- Forgets the place of a key at this level; it must not be required. -/
def forgetKey? (lexer : Lexer) : Option Lexer :=
  match lexer.keys with
  | [] => some lexer
  | mark :: outer =>
    if mark.possible && mark.required then none
    else some { lexer with keys := { mark with possible := false } :: outer }

def noteKey? (lexer : Lexer) : Option Lexer :=
  if lexer.keyAllowed then
    (lexer.forgetKey?).map fun lexer₁ =>
      let mark : KeyMark :=
        { possible := true
          required := lexer.flowLevel == 0 && lexer.indent == (lexer.cursor.column : Int)
          position := lexer.count
          index := lexer.cursor.index
          line := lexer.cursor.line
          column := lexer.cursor.column }
      { lexer₁ with keys := mark :: lexer₁.keys.drop 1 }
  else some lexer

/-- Begins a block collection if the column is deeper than that of the innermost one.  Its token
comes after the first `position` ones. -/
def openBlock (lexer : Lexer) (column position : Nat) (token : Token) : Lexer :=
  if lexer.flowLevel = 0 ∧ lexer.indent < column then
    { lexer.insertAt position token with
      indent := column, indents := lexer.indent :: lexer.indents }
  else lexer

/-- Ends the block collections that are deeper than a column. -/
def closeFrom (column : Int) : List Int → Lexer → Lexer
  | [], lexer => lexer
  | outer :: rest, lexer =>
    if column < lexer.indent then
      closeFrom column rest { lexer.push .blockEnd with indent := outer, indents := rest }
    else lexer

/-- Ends the block collections that are deeper than a column; within flow collections none ends. -/
def closeBlocks (lexer : Lexer) (column : Int) : Lexer :=
  if lexer.flowLevel = 0 then closeFrom column lexer.indents lexer else lexer

/-- Skips gaps, comments and line ends up to the next token. -/
def skipToText : Nat → Lexer → Lexer
  | 0, lexer => lexer
  | fuel + 1, lexer =>
    let tabs := lexer.flowLevel != 0 || !lexer.keyAllowed
    let (_, cursor) :=
      lexer.cursor.skipByteOrderMark.takeWhile fun c => c = ' ' || (tabs && c = '\t')
    let cursor₁ := cursor.skipComment
    if cursor₁.breakAt 0 then
      skipToText fuel
        { lexer with
          cursor := cursor₁.nextLine
          keyAllowed := lexer.keyAllowed || lexer.flowLevel == 0 }
    else { lexer with cursor := cursor₁ }

def take (lexer : Lexer) (length : Nat) (token : Token) : Lexer :=
  { lexer.push token with cursor := lexer.cursor.advanceBy length }

/-! ## Tokens -/

/-- The end of every block collection, before a directive or a marker of a document. -/
def leaveBlocks? (lexer : Lexer) : Option Lexer :=
  ((lexer.closeBlocks (-1)).forgetKey?).map fun lexer₁ => { lexer₁ with keyAllowed := false }

def readVersionNumber? (cursor : Cursor) : Option (Nat × Cursor) :=
  let (digits, cursor₁) := cursor.takeWhile fun c => '0' ≤ c && c ≤ '9'
  if digits.length ≤ 9 then
    (Text.Numeral.ofDigits? 10 digits).map fun n => (n, cursor₁)
  else none

/-- Whether a character may stand in a tag as it is; the last three only where the tag stands in
angle brackets or in a directive. -/
def isTagChar (wide : Bool) (c : Char) : Bool :=
  isWordChar c || ";/?:@&=+$.!~*'()".toList.contains c || (wide && ",[]".toList.contains c)

/-- Reads a byte that is written as a percent sign and two hexadecimal digits. -/
def readTagByte? (cursor : Cursor) : Option (UInt8 × Cursor) :=
  match cursor.rest with
  | '%' :: high :: low :: _ =>
    (Text.Numeral.ofDigits? 16 [high, low]).map fun n => (n.toUInt8, cursor.advanceBy 3)
  | _ => none

/-- Reads that many further bytes of a character. -/
def readTagBytes? : Nat → Text.Bytes → Cursor → Option (Text.Bytes × Cursor)
  | 0, done, cursor => some (done.reverse, cursor)
  | count + 1, done, cursor =>
    (readTagByte? cursor).bind fun (byte, cursor₁) =>
      if byte &&& 0xc0 = 0x80 then readTagBytes? count (byte :: done) cursor₁ else none

/-- The number of bytes that follow the first byte of a character. -/
def furtherBytes? (lead : UInt8) : Option Nat :=
  if lead &&& 0x80 = 0 then some 0
  else if lead &&& 0xe0 = 0xc0 then some 1
  else if lead &&& 0xf0 = 0xe0 then some 2
  else if lead &&& 0xf8 = 0xf0 then some 3
  else none

/-- Reads a character that is written as its bytes. -/
def readTagEscape? (cursor : Cursor) : Option (List Char × Cursor) :=
  (readTagByte? cursor).bind fun (lead, cursor₁) =>
    (furtherBytes? lead).bind fun count =>
      (readTagBytes? count [lead] cursor₁).map fun (bytes, cursor₂) =>
        ((Text.Utf8.decodeLossy bytes).toList, cursor₂)

def readTagText? (wide : Bool) : Nat → List Char → Cursor → Option (List Char × Cursor)
  | 0, done, cursor => some (done.reverse, cursor)
  | fuel + 1, done, cursor =>
    match cursor.peek? with
    | some '%' =>
      (readTagEscape? cursor).bind fun (cs, cursor₁) =>
        readTagText? wide fuel (cs.reverse ++ done) cursor₁
    | some c =>
      if isTagChar wide c then readTagText? wide fuel (c :: done) cursor.advance
      else some (done.reverse, cursor)
    | none => some (done.reverse, cursor)

def tagText? (wide : Bool) (cursor : Cursor) : Option (List Char × Cursor) :=
  readTagText? wide (cursor.rest.length + 1) [] cursor

/-- Reads a handle: an exclamation mark, or a word between two. -/
def readHandle? (cursor : Cursor) : Option (List Char × Cursor) :=
  if cursor.at? '!' then
    let (word, cursor₁) := cursor.advance.takeWhile isWordChar
    if cursor₁.at? '!' then some ('!' :: word ++ ['!'], cursor₁.advance)
    else some ('!' :: word, cursor₁)
  else none

/-- A directive: the version of YAML, or a handle of tags. -/
def addDirective? (lexer : Lexer) : Option Lexer := do
  let lexer₁ ← lexer.leaveBlocks?
  let (name, cursor) := lexer₁.cursor.advance.takeWhile isWordChar
  if !cursor.blankAt 0 then none
  let (token, cursor₁) ←
    if name = "YAML".toList then do
      let (major, cursor₁) ← readVersionNumber? cursor.skipGaps
      if !cursor₁.at? '.' then none
      let (minor, cursor₂) ← readVersionNumber? cursor₁.advance
      pure (Token.versionDirective major minor, cursor₂)
    else if name = "TAG".toList then do
      let (handle, cursor₁) ← readHandle? cursor.skipGaps
      if handle.length > 1 && handle.getLast? != some '!' then none
      if !(cursor₁.peek?.any isGap) then none
      let (start, cursor₂) ← tagText? true cursor₁.skipGaps
      if start.isEmpty || !cursor₂.blankAt 0 then none
      pure (Token.tagDirective handle start, cursor₂)
    else none
  let cursor₂ := cursor₁.skipGaps.skipComment
  if !cursor₂.atLineEnd then none
  pure { lexer₁.push token with cursor := cursor₂.nextLine }

def addDocumentMarker? (lexer : Lexer) (token : Token) : Option Lexer :=
  (lexer.leaveBlocks?).map fun lexer₁ => lexer₁.take 3 token

def addFlowStart? (lexer : Lexer) (token : Token) : Option Lexer :=
  (lexer.noteKey?).map fun lexer₁ =>
    { lexer₁.take 1 token with
      flowLevel := lexer₁.flowLevel + 1, keys := {} :: lexer₁.keys, keyAllowed := true }

def addFlowEnd? (lexer : Lexer) (token : Token) : Option Lexer :=
  (lexer.forgetKey?).map fun lexer₁ =>
    let keys := if lexer₁.flowLevel = 0 then lexer₁.keys else lexer₁.keys.drop 1
    { lexer₁.take 1 token with flowLevel := lexer₁.flowLevel - 1, keys, keyAllowed := false }

def addFlowEntry? (lexer : Lexer) : Option Lexer :=
  (lexer.forgetKey?).map fun lexer₁ => { lexer₁.take 1 .flowEntry with keyAllowed := true }

def addBlockEntry? (lexer : Lexer) : Option Lexer :=
  if lexer.flowLevel = 0 ∧ !lexer.keyAllowed then none
  else
    let opened :=
      if lexer.flowLevel = 0 then
        lexer.openBlock lexer.cursor.column lexer.count .blockSequenceStart
      else lexer
    (opened.forgetKey?).map fun lexer₁ => { lexer₁.take 1 .blockEntry with keyAllowed := true }

def addKey? (lexer : Lexer) : Option Lexer :=
  if lexer.flowLevel = 0 ∧ !lexer.keyAllowed then none
  else
    let opened := lexer.openBlock lexer.cursor.column lexer.count .blockMappingStart
    (opened.forgetKey?).map fun lexer₁ =>
      { lexer₁.take 1 .key with keyAllowed := lexer₁.flowLevel == 0 }

/-- The colon before a value.  If a key may have begun on this line, it did. -/
def addValue? (lexer : Lexer) : Option Lexer :=
  match lexer.keys with
  | mark :: outer =>
    if mark.possible then
      let keyed := { lexer with keys := { mark with possible := false } :: outer }.insertAt
        mark.position .key
      let opened := keyed.openBlock mark.column mark.position .blockMappingStart
      some { opened.take 1 .value with keyAllowed := false }
    else if lexer.flowLevel = 0 ∧ !lexer.keyAllowed then none
    else
      let opened := lexer.openBlock lexer.cursor.column lexer.count .blockMappingStart
      some { opened.take 1 .value with keyAllowed := opened.flowLevel == 0 }
  | [] => none

def addName? (lexer : Lexer) (token : List Char → Token) : Option Lexer :=
  (lexer.noteKey?).bind fun lexer₁ =>
    let (name, cursor) := lexer₁.cursor.advance.takeWhile isWordChar
    let ends := cursor.blankAt 0 || cursor.peek?.any fun c => "?:,]\x7d%@`".toList.contains c
    if name.isEmpty || !ends then none
    else some { lexer₁.push (token name) with cursor, keyAllowed := false }

/-- Reads a tag: an exclamation mark alone, a tag in angle brackets, or a handle and what follows
it. -/
def readTag? (cursor : Cursor) : Option (List Char × List Char × Cursor) := do
  if cursor.peekAt? 1 == some '<' then
    let (suffix, cursor₁) ← tagText? true (cursor.advanceBy 2)
    if suffix.isEmpty || !cursor₁.at? '>' then none else pure ([], suffix, cursor₁.advance)
  else
    let (handle, cursor₁) ← readHandle? cursor
    let (suffix, cursor₂) ← tagText? false cursor₁
    if handle.length > 1 && handle.getLast? == some '!' then
      if suffix.isEmpty then none else pure (handle, suffix, cursor₂)
    else
      let whole := handle.drop 1 ++ suffix
      if whole.isEmpty then pure ([], ['!'], cursor₂) else pure (['!'], whole, cursor₂)

def addTag? (lexer : Lexer) : Option Lexer := do
  let lexer₁ ← lexer.noteKey?
  let (handle, suffix, cursor) ← readTag? lexer₁.cursor
  if cursor.blankAt 0 || (lexer₁.flowLevel != 0 && cursor.at? ',') then
    pure { lexer₁.push (.tag handle suffix) with cursor, keyAllowed := false }
  else none

def addBlockScalar? (lexer : Lexer) (literal : Bool) : Option Lexer := do
  let lexer₁ ← lexer.forgetKey?
  let (text, cursor) ← Scalar.readBlock? literal lexer₁.indent lexer₁.cursor.advance
  let style := if literal then ScalarStyle.literal else .folded
  pure { lexer₁.push (.scalar style text) with cursor, keyAllowed := true }

def addQuoted? (lexer : Lexer) (single : Bool) : Option Lexer := do
  let lexer₁ ← lexer.noteKey?
  let (text, cursor) ←
    Scalar.readQuoted? single (lexer₁.cursor.rest.length + 1) [] lexer₁.cursor.advance
  let style := if single then ScalarStyle.singleQuoted else .doubleQuoted
  pure { lexer₁.push (.scalar style text) with cursor, keyAllowed := false }

def addPlain? (lexer : Lexer) : Option Lexer := do
  let lexer₁ ← lexer.noteKey?
  let (text, ended, cursor) ←
    Scalar.readPlain? (lexer₁.flowLevel != 0) (lexer₁.indent + 1).toNat
      (lexer₁.cursor.rest.length + 1) [] {} lexer₁.cursor
  pure { lexer₁.push (.scalar .plain text) with cursor, keyAllowed := ended }

def plainMayBegin (cursor : Cursor) (inFlow : Bool) : Bool :=
  match cursor.peek? with
  | none => false
  | some c =>
    let indicator := "-?:,[]\x7b\x7d#&*!|>'\"%@`".toList.contains c
    (!indicator && !isGap c && !isBreak c)
      || (c = '-' && !(cursor.peekAt? 1).any isGap)
      || (!inFlow && (c = '?' || c = ':') && !cursor.blankAt 1)

/-- Reads the next token at a character that begins one. -/
def addToken? (lexer : Lexer) (c : Char) : Option Lexer :=
  let cursor := lexer.cursor
  let inFlow := lexer.flowLevel != 0
  if cursor.column == 0 && c = '%' then lexer.addDirective?
  else if cursor.atDocumentMarker '-' then lexer.addDocumentMarker? .documentStart
  else if cursor.atDocumentMarker '.' then lexer.addDocumentMarker? .documentEnd
  else if c = '[' then lexer.addFlowStart? .flowSequenceStart
  else if c = '\x7b' then lexer.addFlowStart? .flowMappingStart
  else if c = ']' then lexer.addFlowEnd? .flowSequenceEnd
  else if c = '\x7d' then lexer.addFlowEnd? .flowMappingEnd
  else if c = ',' then lexer.addFlowEntry?
  else if c = '-' && cursor.blankAt 1 then lexer.addBlockEntry?
  else if c = '?' && (inFlow || cursor.blankAt 1) then lexer.addKey?
  else if c = ':' && (inFlow || cursor.blankAt 1) then lexer.addValue?
  else if c = '*' then lexer.addName? .alias
  else if c = '&' then lexer.addName? .anchor
  else if c = '!' then lexer.addTag?
  else if c = '|' && !inFlow then lexer.addBlockScalar? true
  else if c = '>' && !inFlow then lexer.addBlockScalar? false
  else if c = '\'' then lexer.addQuoted? true
  else if c = '"' then lexer.addQuoted? false
  else if plainMayBegin cursor inFlow then lexer.addPlain?
  else none

def run? : Nat → Lexer → Option Lexer
  | 0, _ => none
  | fuel + 1, lexer =>
    let skipped := skipToText (lexer.cursor.rest.length + 1) lexer
    (skipped.forgetOldKeys?).bind fun lexer₁ =>
      let lexer₂ := lexer₁.closeBlocks lexer₁.cursor.column
      match lexer₂.cursor.peek? with
      | none => (lexer₂.closeBlocks (-1)).forgetKey?
      | some c => (lexer₂.addToken? c).bind (run? fuel)

end Lexer

def Token.ofText? (text : String) : Option (List Token) :=
  let cs := match text.toList with
    | '\uFEFF' :: rest => rest
    | cs => cs
  if cs.all isAllowed then
    (Lexer.run? (cs.length + 2) { cursor := { rest := cs } }).map fun lexer => lexer.tokens.reverse
  else none

end BrowserPods.Yaml
