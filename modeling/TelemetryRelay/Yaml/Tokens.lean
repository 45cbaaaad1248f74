import TelemetryRelay.Yaml.Indented
import TelemetryRelay.Yaml.Layout
import TelemetryRelay.Yaml.Plain
import TelemetryRelay.Yaml.Tag

/-!
# From characters to tokens

The next character and the one behind it decide what begins at a place.  Each
step reads one token and keeps the layout up to date; tokens that say where
collections begin and end come with it.
-/

namespace TelemetryRelay
namespace Yaml
namespace Layout

/-! ## Collections in brackets -/

/-- How many brackets may be open. -/
def bracketLimit : Nat :=
  255

def openBracket (layout : Layout) (token : Token) : Option Layout := do
  let noted := layout.noteKey.enterMargin
  if bracketLimit ≤ noted.outerKeys.length then
    none
  else
    let opened :=
      { noted with
        cursor := layout.cursor.next
        keyAllowed := true
        key := none
        outerKeys := noted.key :: noted.outerKeys
        tableBegun := token == Token.flowTableStart || noted.tableBegun
        pairs := if token == Token.flowTableStart then noted.pairs else false :: noted.pairs }
    return (<- opened.skipInLine).push token

def closeBracket (layout : Layout) (token : Token) : Option Layout := do
  let dropped <- layout.dropKey
  let left :=
    match dropped.outerKeys with
    | [] => dropped
    | key :: outerKeys => { dropped with key, outerKeys }
  let ended :=
    if token == Token.flowListEnd then
      let paired := left.endPair
      { paired with pairs := paired.pairs.drop 1 }
    else left
  let behind <- ((ended.goTo layout.cursor.next).allowKey false).skipInLine
  let placed := if behind.inFlow then { behind with adjacent := behind.cursor.index } else behind
  return placed.push token

def separate (layout : Layout) : Option Layout := do
  let dropped <- layout.dropKey
  let behind <- ((dropped.allowKey true).endPair.goTo layout.cursor.next).skipInLine
  return behind.push .comma

/-! ## Marks of collections without brackets -/

def dash (layout : Layout) : Option Layout := do
  if layout.inFlow || !layout.keyAllowed then
    none
  else
    let opened :=
      (layout.goTo layout.cursor.next).openAt layout.cursor.column layout.tokens.size .blockListStart
    let behind <- opened.skipInLine
    let hasTab := (opened.cursor.run isLineSpace).contains '\t'
    let rest := behind.cursor.rest
    if hasTab && startsWith (· == '-') rest && standsAlone (rest.drop 1) then
      none
    else
      let kept :=
        if startsWith (fun char => char == '\n' || isBracket char) rest then behind.enterMargin
        else behind
      return ((<- kept.dropKey).allowKey true).push .item

/-- Skip spaces, line ends and comments, without a tab. -/
def skipUntabbed : (budget : Nat) -> Cursor -> Cursor
  | 0, cursor => cursor
  | budget + 1, cursor =>
      match cursor.rest with
      | ' ' :: _ => skipUntabbed budget cursor.next
      | '\n' :: _ => skipUntabbed budget cursor.next
      | '#' :: _ => skipUntabbed budget (cursor.skip (· != '\n'))
      | _ => cursor

def question (layout : Layout) : Option Layout := do
  let opened <-
    if layout.inFlow then some { layout with tableBegun := true }
    else if layout.keyAllowed then
      some (layout.openAt layout.cursor.column layout.tokens.size .blockTableStart)
    else none
  let dropped <- opened.dropKey
  let start := layout.cursor.next
  let behind := skipUntabbed (start.rest.length + 1) start
  if startsWith (fun char => char == ' ' || char == '\n') start.rest &&
      !startsWith (· == '\t') behind.rest then
    return ((dropped.goTo behind).allowKey (!layout.inFlow)).push .key
  else
    none

/-- Skip what follows a colon if it begins with a tab.  Without a space among
it, no word may follow. -/
def skipBehindColon (cursor : Cursor) : Option Cursor :=
  if startsWith (· == '\t') cursor.rest then do
    let behind <- cursor.skipInLine
    let hasSpace := (cursor.run isLineSpace).contains ' '
    if !hasSpace && startsWith isWordChar behind.rest then none else return behind
  else some cursor

def colon (layout : Layout) : Option Layout := do
  let begins := !layout.pairs.isEmpty && !layout.tableBegun
  let noted :=
    if begins then { layout with pairs := true :: layout.pairs.drop 1 } else layout
  let behind := noted.goTo (<- skipBehindColon layout.cursor.next)
  match layout.key with
  | some key =>
      let announced := behind.pushAt key.place .key
      if begins ∧ key.line < layout.cursor.line then
        none
      else
        let begun := if begins then announced.pushAt key.place .flowTableStart else announced
        let opened := (begun.openAt key.column key.place .blockTableStart).enterMargin
        return ({ opened with key := none, keyAllowed := false } : Layout).push .value
  | none =>
      let begun := if begins then behind.push .flowTableStart else behind
      if begun.inFlow then
        return (begun.allowKey false).push .value
      else if begun.keyAllowed then
        let opened := begun.openAt layout.cursor.column begun.tokens.size .blockTableStart
        return (opened.enterMargin.allowKey true).push .value
      else
        none

/-! ## Values -/

/-- An anchor or alias: a mark and a name. -/
def anchorOrAlias (layout : Layout) (token : String -> Token) : Option Layout :=
  let start := layout.cursor.next
  let name :=
    start.run fun char => !isWhite char && !isBracket char && char != '\uFEFF'
  if name.isEmpty then none
  else
    some
      (((layout.noteKey.allowKey false).goTo (start.advance name.length)).push
        (token (String.ofList name)))

def tagged (layout : Layout) : Option Layout := do
  let (token, behind) <- tag layout.inFlow layout.cursor
  return ((layout.noteKey.allowKey false).goTo behind).push token

def indented (layout : Layout) (folds : Bool) : Option Layout := do
  let left := (layout.noteKey.allowKey true).leaveMargins
  let (content, behind) <- indentedText folds left.indent layout.cursor
  return (left.goTo behind).push (.text false content)

/-- A text in quotes.  Behind it a colon counts even if something is written
close behind that. -/
def quoted (layout : Layout) (quote : Char) : Option Layout := do
  let noted := layout.noteKey.allowKey false
  let (content, behind) <- quotedText quote layout.inFlow layout.indent layout.cursor
  let skipped <- (noted.goTo behind).skipFiller
  return ({ skipped with adjacent := skipped.cursor.index } : Layout).push (.text false content)

def plain (layout : Layout) : Option Layout := do
  let left := (layout.noteKey.allowKey false).leaveMargins
  let (content, behind) <- plainText layout.inFlow (left.indent + 1) layout.cursor
  return ((left.goTo behind).allowKey behind.leading).push (.text true content)

/-! ## Lines that belong to no collection -/

def direct (layout : Layout) : Option Layout := do
  let dropped <- (layout.closeTo (-1)).dropKey
  let (token, behind) <- directive layout.cursor
  return ((dropped.allowKey false).goTo behind).push token

/-- Three marks that begin or end a document. -/
def bound (layout : Layout) (token : Token) : Option Layout := do
  let dropped <- (layout.closeTo (-1)).dropKey
  return ((dropped.allowKey false).goTo (layout.cursor.advance 3)).push token

/-- The end of a document.  Only a comment may follow in its line. -/
def boundEnd (layout : Layout) : Option Layout := do
  let behind <- (<- layout.bound .documentEnd).skipInLine
  if endsLine behind.cursor.rest then return behind else none

/-! ## Steps -/

/-- Whether a colon counts here, because of what follows it or stands before
it. -/
def colonCounts (layout : Layout) (rest : List Char) : Bool :=
  standsAlone rest ||
    (layout.inFlow && (startsWith isBracket rest || layout.cursor.index == layout.adjacent))

def mark (layout : Layout) (char : Char) (rest : List Char) : Option Layout :=
  match char with
  | '[' => layout.openBracket .flowListStart
  | '\x7b' => layout.openBracket .flowTableStart
  | ']' => layout.closeBracket .flowListEnd
  | '\x7d' => layout.closeBracket .flowTableEnd
  | ',' => layout.separate
  | '*' => layout.anchorOrAlias .alias
  | '&' => layout.anchorOrAlias .anchor
  | '!' => layout.tagged
  | '\'' => layout.quoted '\''
  | '"' => layout.quoted '"'
  | '%' => none
  | '@' => none
  | '\u0060' => none
  | '-' => if standsAlone rest then layout.dash else layout.plain
  | '?' => if standsAlone rest then layout.question else layout.plain
  | ':' => if layout.colonCounts rest then layout.colon else layout.plain
  | '|' => if layout.inFlow then layout.plain else layout.indented false
  | '>' => if layout.inFlow then layout.plain else layout.indented true
  | _ => layout.plain

def step (layout : Layout) (char : Char) (rest : List Char) : Option Layout :=
  let cursor := layout.cursor
  if cursor.column = 0 ∧ char = '%' then layout.direct
  else if cursor.column = 0 ∧ isTriple '-' cursor.rest = true then layout.bound .documentStart
  else if cursor.column = 0 ∧ isTriple '.' cursor.rest = true then layout.boundEnd
  else if (cursor.column : Int) < layout.indent then none
  else layout.mark char rest

/-- The tokens of a document whose end has been reached. -/
def finish (layout : Layout) : Option (List Token) :=
  if ((layout.key :: layout.outerKeys).any fun key =>
      (key.map PossibleKey.required).getD false) then none
  else some (layout.closeTo (-1)).tokens.toList

/-- Read the rest of a document. -/
def finishFrom : (budget : Nat) -> Layout -> Option (List Token)
  | 0, _ => none
  | budget + 1, layout => do
      let current <- (<- layout.skipFiller).expireKey
      let placed := current.closeTo current.cursor.column
      match placed.cursor.rest with
      | [] => placed.finish
      | char :: rest => finishFrom budget (<- placed.step char rest)

end Layout

/-- The tokens of a document whose line ends are all written as one character. -/
def tokensOf? (chars : List Char) : Option (List Token) :=
  Layout.finishFrom (chars.length + 1) (Layout.ofChars chars)

end Yaml
end TelemetryRelay
