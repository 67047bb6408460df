import GuardedScript.Buffer
import GuardedScript.Error
import GuardedScript.Token

/-!
# From characters to tokens

The lexer reads a script one character at a time. It is always in one of four modes:

* *free*, where words are collected and the other modes begin;
* in a *comment*, which a line feed ends;
* in a *literal*, which the quote that began it ends, and where a backslash takes the
  character after it as it is;
* in a *variable*, whose name a space, a line feed or the end of the instruction ends.

Outside literals a carriage return has no effect. A space ends the word before it, but a line
feed stands for a space inside the word, so that a word may span lines. The characters that
wait before a block begins or ends are dropped.

The lexer knows nothing of the host: its state after a text depends on the text alone.
-/

namespace GuardedScript

/-- What the lexer is reading. -/
inductive Mode
  | free
  | comment
  | literal (quote : Quote) (escaped : Bool)
  | variable
deriving DecidableEq, Repr

/-- The state of the lexer: its mode and the characters of the token under way. -/
structure Lexer where
  mode : Mode
  buffer : Buffer
deriving DecidableEq, Repr

namespace Lexer

/-- Nothing has been read, or nothing that matters any more. -/
def start : Lexer :=
  ⟨.free, .empty⟩

/-- The word that is taken out of a buffer, if there is one. -/
def wordToken (b : Buffer) : List Token :=
  b.takeWord.1.toList.map .word

/-- A literal begins. A word directly before it becomes a part of it, blanks do not. -/
def beginLiteral (b : Buffer) (quote : Quote) : Lexer :=
  ⟨.literal quote false, if b.isBlank then .empty else b⟩

/-- A character read freely. -/
def stepFree (b : Buffer) (c : Char) : Except Malformation (Lexer × List Token) :=
  match c with
  | ';' => .ok (⟨.free, b.takeWord.2⟩, wordToken b ++ [.stop])
  | ' ' =>
    if b.endsWithSpace then .ok (⟨.free, b⟩, []) else .ok (⟨.free, b.takeWord.2⟩, wordToken b)
  | '\n' => .ok (⟨.free, if b.endsWithSpace then b else b.push ' '⟩, [])
  | '#' =>
    if b.isBlank then .ok (⟨.comment, b⟩, [.comment]) else .error .commentInInstruction
  | '\x7b' => .ok (start, [.enter])
  | '\x7d' => .ok (start, [.leave])
  | '"' => .ok (beginLiteral b .double, [])
  | '\'' => .ok (beginLiteral b .single, [])
  | '$' => if b.isEmpty then .ok (⟨.variable, b⟩, []) else .error .variableInWord
  | _ => .ok (⟨.free, b.push c⟩, [])

/-- A character inside a comment. -/
def stepComment (b : Buffer) (c : Char) : Lexer :=
  if c = '\n' then start else ⟨.comment, b⟩

/-- A character inside a literal. -/
def stepLiteral (quote : Quote) (escaped : Bool) (b : Buffer) (c : Char) : Lexer × List Token :=
  if escaped then (⟨.literal quote false, b.push c⟩, [])
  else if c = '\\' then (⟨.literal quote true, b⟩, [])
  else if c = quote.char then (⟨.free, b.takeText.2⟩, [.literal b.takeText.1])
  else (⟨.literal quote false, b.push c⟩, [])

/-- A character inside the name of a variable. -/
def stepVariable (b : Buffer) (c : Char) : Lexer × List Token :=
  match c with
  | ' ' => (⟨.free, b.takeText.2⟩, [.reference b.takeText.1])
  | '\n' => (⟨.free, b.takeText.2⟩, [.reference b.takeText.1])
  | ';' => (⟨.free, b.takeText.2⟩, [.reference b.takeText.1, .stop])
  | _ => (⟨.variable, b.push c⟩, [])

/-- One more character: the state after it, and the tokens that it completes. -/
def step (l : Lexer) (c : Char) : Except Malformation (Lexer × List Token) :=
  match l.mode with
  | .literal quote escaped => .ok (stepLiteral quote escaped l.buffer c)
  | .free => if c = '\r' then .ok (l, []) else stepFree l.buffer c
  | .comment => if c = '\r' then .ok (l, []) else .ok (stepComment l.buffer c, [])
  | .variable => if c = '\r' then .ok (l, []) else .ok (stepVariable l.buffer c)

/-- What is wrong when the text ends here, where `assembling` tells whether components of an
instruction have been read. -/
def finish (l : Lexer) (assembling : Bool) : Option Malformation :=
  match l.mode with
  | .comment => none
  | .literal _ _ => some .unterminatedLiteral
  | .free | .variable =>
    if assembling || !l.buffer.isBlank then some .unterminatedInstruction else none

end Lexer

end GuardedScript
