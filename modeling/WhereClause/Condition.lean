import WhereClause.Dialect

/-! Conditions with numbered parameters.

A condition is a sequence of chunks, each a piece of text or the place of a
parameter, with the parameters beside it. Its shape tells the connective at the top
level, which decides where parentheses are needed.
-/

set_option autoImplicit false

namespace WhereClause

inductive Chunk where
  | text (content : String)
  | param (index : Nat)
  deriving DecidableEq, Repr

inductive Shape where
  | atom
  | and
  | or
  deriving DecidableEq, Repr

def Word.shape : Word → Shape
  | .and => .and
  | .or => .or

structure Condition where
  chunks : List Chunk
  params : List Value
  shape : Shape

namespace Condition

def render (placeholder : Nat → String) (chunks : List Chunk) : String :=
  String.join (chunks.map fun chunk =>
    match chunk with
    | .text content => content
    | .param index => placeholder index)

/-- The text with placeholders `@0`, `@1` and so on. -/
def text (condition : Condition) : String :=
  render (fun index => "@" ++ toString index) condition.chunks

def sql (condition : Condition) : String := "WHERE " ++ condition.text

def native (condition : Condition) (style : SqlStyle) : String :=
  "WHERE " ++ render (fun index => style.placeholder (index + 1)) condition.chunks

def shiftChunk (offset : Nat) : Chunk → Chunk
  | .text content => .text content
  | .param index => .param (index + offset)

/-- A part in parentheses, with its parameters behind those of the parts before it. -/
def grouped (offset : Nat) (part : Condition) : List Chunk :=
  .text "(" :: part.chunks.map (shiftChunk offset) ++ [.text ")"]

def joinChunks (separator : String) : (offset : Nat) → List Condition → List Chunk
  | _, [] => []
  | offset, [part] => grouped offset part
  | offset, part :: next :: rest =>
    grouped offset part ++ .text separator ::
      joinChunks separator (offset + part.params.length) (next :: rest)

/-- Join conditions by a word. A single one stays as it is, and none is an error. -/
def combine (word : Word) : List Condition → Except Error Condition
  | [] => .error (.unsupported .nothingToCombine)
  | [part] => .ok part
  | parts =>
    .ok {
      chunks := joinChunks (" " ++ word.sql ++ " ") 0 parts
      params := parts.flatMap Condition.params
      shape := word.shape }

/-- Equality of parameter lists as numbers see it. -/
def sameParams (left right : Condition) : Bool := Value.agreesAll left.params right.params

end Condition

end WhereClause
