import CoffeeTree.Command.Console
import CoffeeTree.Literal.Constant
import CoffeeTree.Terminal.Emoji
import CoffeeTree.Terminal.Style
import CoffeeTree.Terminal.Wrap

/-!
# Tagged messages

A message may hold tags in square brackets. They style the text between them and are not printed:
`[name]` opens a style, `[/name]` closes the style of that name that was opened last, and `[/]`
closes the style that was opened last. An opening tag may have an argument behind `=`. A name that
starts with `@` is that of an event, and the argument is what handles it: a name, a name with
constants in parentheses, or a constant.

Backslashes in front of a tag stand for half as many, and an odd one more makes the tag plain text.
A bracket that starts no tag is plain text; a backslash right in front of it is left out. In plain
text, names of emoji between colons become emoji.
-/

namespace CoffeeTree.Terminal

open Text

/-! ### The parts of a message -/

structure Tag where
  name : List Char
  argument : Option (List Char)
  deriving DecidableEq, Repr

inductive Piece where
  | plain (text : List Char)
  | opening (tag : Tag)
  /-- Closes the style that was opened last if the name is blank. -/
  | closing (name : List Char)
  deriving DecidableEq, Repr

/-- The tag with the given text between its brackets. -/
def Piece.ofTag (inside : List Char) : Piece :=
  match inside.takeWhile (· ≠ '=') with
  | '/' :: name => closing name
  | name =>
    opening ⟨name, if inside.contains '=' then some (inside.drop (name.length + 1)) else none⟩

/-- Whether a tag may start with a character. -/
def startsTag (c : Char) : Bool := 'a' ≤ c && c ≤ 'z' || c = '#' || c = '/' || c = '@'

/-- A tag in its brackets. It holds no further bracket. -/
def scanTag? : (text : List Char) → Option (Scanned (List Char) text.length)
  | '[' :: c :: rest =>
    if startsTag c then
      let isInside (d : Char) : Bool := d ≠ '[' && d ≠ ']'
      (((Scanned.here (c :: rest.takeWhile isInside) rest).skip isInside).drop? ']').map (·.back 1)
    else none
  | _ => none

/-- A piece of plain text, given with its last character first. An empty one is left out. -/
def plainPiece (backwards : List Char) : List Piece :=
  if backwards.isEmpty then [] else [.plain backwards.reverse]

/-- A tag behind `count` backslashes. -/
def taggedPieces (count : Nat) (inside : List Char) : List Piece :=
  plainPiece (List.replicate (count / 2) '\\') ++
    [if count % 2 = 0 then .ofTag inside else .plain ('[' :: inside ++ [']'])]

/-- The parts of a message, in order, behind a piece of plain text that is given with its last
character first. -/
def piecesAfter (plain text : List Char) : List Piece :=
  match scanTag? (text.dropWhile (· = '\\')) with
  | some tag =>
    plainPiece plain ++ taggedPieces (text.takeWhile (· = '\\')).length tag.value ++
      piecesAfter [] tag.rest
  | none =>
    match text with
    | [] => plainPiece plain
    | '\\' :: '[' :: rest => piecesAfter ('[' :: plain) rest
    | c :: rest => piecesAfter (c :: plain) rest
termination_by text.length
decreasing_by
  · exact Nat.lt_of_lt_of_le tag.shorter (length_dropWhile_le text)
  · exact Nat.lt_succ_of_lt (Nat.lt_succ_self _)
  · exact Nat.lt_succ_self _

/-- The parts of a message, in order. -/
def pieces (text : List Char) : List Piece := piecesAfter [] text

/-! ### Events -/

/-- Whether an argument can handle an event. -/
def isHandler (argument : List Char) : Bool :=
  let text := strip argument
  let behind := text.dropWhile fun c ↦ isWordCharacter c || c = '.'
  if behind.head? = some '(' && behind.getLast? = some ')' && !behind.contains '\n' then
    Literal.isConstant behind
  else behind.isEmpty || Literal.isConstant text

/-- Checks the handler of an event. Other tags have none. -/
def Tag.checkHandler (tag : Tag) : Except TagError Unit :=
  match tag.argument with
  | some argument =>
    if tag.name.head? = some '@' && !argument.isEmpty && !isHandler argument then
      .error .invalidHandler
    else .ok ()
  | none => .ok ()

/-! ### Printing -/

/-- The style that a name in a tag means. -/
def styleNamed (name : List Char) : Except TagError StyleName :=
  match StyleName.ofText? name with
  | some style => .ok style
  | none => .error .missingNumber

/-- A style that is open. -/
structure OpenStyle where
  style : StyleName
  tag : Tag
  /-- How much was printed before it. -/
  start : Nat

/-- What is printed of a message so far. -/
structure Untagging where
  text : List Char
  /-- The styles that are open, the last one first. -/
  opened : List OpenStyle
  /-- The styles that were closed, and whether there is any text in them. -/
  closed : List (Tag × Bool)

namespace Untagging

/-- Closes the first of the open styles that satisfies `p`. -/
def close (u : Untagging) (p : StyleName → Bool) : Except TagError Untagging :=
  match u.opened.find? (p ·.style) with
  | none => .error .unopened
  | some o => do
    o.tag.checkHandler
    .ok ⟨u.text, u.opened.eraseP (p ·.style), (o.tag, o.start < u.text.length) :: u.closed⟩

def add (u : Untagging) : Piece → Except TagError Untagging
  | .plain text => .ok { u with text := u.text ++ replaceEmoji text }
  | .opening tag => do
    let style ← styleNamed tag.name
    .ok { u with opened := ⟨style, tag, u.text.length⟩ :: u.opened }
  | .closing name =>
    if (strip name).isEmpty then u.close fun _ ↦ true
    else do
      let style ← styleNamed (strip name)
      u.close (· = style)

/-- The styles of the whole message, and whether there is any text in them. -/
def styles (u : Untagging) : List (Tag × Bool) :=
  u.opened.map (fun o ↦ (o.tag, decide (o.start < u.text.length))) ++ u.closed

end Untagging

/-- Takes the tags out of a message. -/
def untag (message : List Char) : Except TagError Untagging :=
  (pieces message).foldlM Untagging.add ⟨[], [], []⟩

/-- Checks the style that a tag describes together with its argument. A text that describes no style
is no fault. -/
def Tag.checkStyle (tag : Tag) : Except TagError Unit :=
  let text := lowerAfter [] tag.name ++ ' ' :: tag.argument.getD []
  match Style.plain.addWords (splitBlanks text) with
  | .error .missingNumber => .error .missingNumber
  | _ => .ok ()

/-- A message as it is printed on a page. The styles that are shown are checked; a style without
text is lost when the message is cut into lines, and a page without a width shows nothing. -/
def printedMessage (page : Nat) (message : String) : Except TagError String := do
  let u ← untag message.toList
  if page = 0 then .ok ""
  else do
    let text := String.ofList u.text
    let isWhole := (wrap .fold page text).length ≤ 1 && !u.text.contains '\t'
    let shown := u.styles.filter fun entry ↦ isWhole || entry.2
    shown.forM (·.1.checkStyle)
    .ok (printed page text)

end CoffeeTree.Terminal
